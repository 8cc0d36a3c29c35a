import Turnstile.Bucket
import Turnstile.Notice
import Turnstile.Registry
/-!
Token buckets by key. A key gets a full bucket with its first request, and loses it to a sweep once
it has been idle.
-/
namespace Turnstile

structure LimiterEntry (α : Type) where
  bucket : Bucket α
  /-- Set when a caller was cut off while it had the bucket in hand. The balance is still read, but
  the next request starts from a full bucket. -/
  poisoned : Bool

abbrev Limiter (α : Type) := Registry (LimiterEntry α)

namespace Limiter

variable {α : Type} [Quantity α]

def label : String := "rate_limiter"

/-- The bucket that a request for `key` is made to, and what is to be said about it. -/
def bucketFor (l : Limiter α) (key : Key) (q : Quota) (now : Instant) : Bucket α × List Notice :=
  match l.get? key with
  | none => (.full q now, [])
  | some entry =>
    if entry.poisoned then
      (.full q now,
       [.logged .warn "Rate limiter state poisoned, resetting bucket" [("key", key.text)]])
    else (entry.bucket, [])

def acquire (l : Limiter α) (key : Key) (q : Quota) (permits : Nat) (now : Instant) :
    Bool × List Notice × Limiter α :=
  let (bucket, notices) := l.bucketFor key q now
  let (granted, bucket) := bucket.acquire q permits now
  (granted, notices, l.insert key ⟨bucket, false⟩)

def available (l : Limiter α) (key : Key) (q : Quota) (now : Instant) : Option α × Limiter α :=
  match l.get? key with
  | none => (none, l)
  | some entry =>
    let (tokens, bucket) := entry.bucket.available q now
    (some tokens, l.insert key { entry with bucket })

def poison (l : Limiter α) (key : Key) : Bool × Limiter α :=
  match l.get? key with
  | none => (false, l)
  | some entry => (true, l.insert key { entry with poisoned := true })

def tracking : Registry.Tracking (LimiterEntry α) where
  lastAccess e := e.bucket.lastRefill
  held _ := false

def sweep (l : Limiter α) (now : Instant) (r : Retention) : Limiter α × Nat :=
  Registry.sweep tracking now r.idleEviction r.maxKeys l

end Limiter
end Turnstile
