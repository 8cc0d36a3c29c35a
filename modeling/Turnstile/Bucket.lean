import Turnstile.Quantity
/-!
Token buckets. A bucket holds a balance and the latest instant it was asked at; capacity and rate
come with each request, so that a changed quota acts at once. It is refilled when asked: time gives
tokens in proportion, never beyond the capacity, and a clock that runs backwards gives none.
-/
namespace Turnstile

/-- Capacity and rate of a bucket. A capacity of zero or less admits nothing. -/
structure Quota where
  capacity : Int
  /-- Tokens given back in each interval; none when not positive. -/
  refillTokens : Int
  refillIntervalMs : Nat
  deriving DecidableEq

namespace Quota

def standard : Quota where
  capacity := 100
  refillTokens := 100
  refillIntervalMs := 1000

instance : Inhabited Quota := ⟨standard⟩

def refillInterval (q : Quota) : Span := .ofMillis q.refillIntervalMs

end Quota

structure Bucket (α : Type) where
  tokens : α
  lastRefill : Instant

namespace Bucket

variable {α : Type} [Quantity α]

def fullSize (q : Quota) : α := Quantity.ofInt (max q.capacity 0)

def full (q : Quota) (now : Instant) : Bucket α where
  tokens := fullSize q
  lastRefill := now

def accrued (q : Quota) (tokens : α) (elapsed : Span) : α :=
  let interval : α := Quantity.seconds q.refillInterval
  if 0 < q.refillTokens ∧ Quantity.ofInt 0 < interval then
    tokens + Quantity.seconds elapsed / interval * Quantity.ofInt q.refillTokens
  else tokens

/-- The bucket as it stands at `now`. A count left over from a larger quota is cut as well. -/
def refill (q : Quota) (now : Instant) (b : Bucket α) : Bucket α where
  tokens := Quantity.clamp (Quantity.ofInt 0) (fullSize q)
    (accrued q b.tokens (now.since b.lastRefill))
  lastRefill := max b.lastRefill now

def covers (q : Quota) (permits : Nat) (b : Bucket α) : Bool :=
  decide (0 < q.capacity) && !decide (b.tokens + Quantity.slack < Quantity.ofInt permits)

def acquire (q : Quota) (permits : Nat) (now : Instant) (b : Bucket α) : Bool × Bucket α :=
  let b := b.refill q now
  if b.covers q permits then
    (true, { b with tokens := Quantity.floorZero (b.tokens - Quantity.ofInt permits) })
  else (false, b)

/-- The balance at `now`. Asking moves the bucket on to that instant. -/
def available (q : Quota) (now : Instant) (b : Bucket α) : α × Bucket α :=
  let b := b.refill q now
  (b.tokens, b)

theorem refill_lastRefill (q : Quota) (now : Instant) (b : Bucket α) :
    (b.refill q now).lastRefill = max b.lastRefill now := rfl

theorem acquire_lastRefill (q : Quota) (permits : Nat) (now : Instant) (b : Bucket α) :
    (b.acquire q permits now).2.lastRefill = max b.lastRefill now := by
  simp only [acquire]
  split <;> rfl

end Bucket
end Turnstile
