import Turnstile.Limiter
import Turnstile.Policy
import Turnstile.Proofs.Bucket
import Turnstile.Proofs.Registry
/-!
What a request does to a limiter. A bucket that grants a request pays its price, up to the slack that
a balance may fall short by; a bucket that does not is only refilled. No other key is touched.
-/
namespace Turnstile

namespace Limiter

section Requests

variable {α : Type} [Quantity α]

theorem get?_acquire (l : Limiter α) (key : Key) (q : Quota) (permits : Nat) (now : Instant) :
    (l.acquire key q permits now).2.2.get? key =
      some ⟨((l.bucketFor key q now).1.acquire q permits now).2, false⟩ :=
  Registry.get?_insert_self _ _ _

def affords (l : Limiter α) (key : Key) (policy : Policy) (now : Instant) : Bool :=
  policy.quota.all fun q => (l.acquire key q policy.tokenCost now).1

end Requests

/-- The bucket of a key at `now`: the balance has grown with the time since, but not beyond what there
is room for, and a bucket that is new or has been poisoned is full. -/
def refilled (l : Limiter Rat) (key : Key) (q : Quota) (now : Instant) : Bucket Rat :=
  let room : Rat := (max q.capacity 0 : Int)
  match l.get? key with
  | some ⟨bucket, false⟩ =>
    ⟨max 0 (min room (bucket.tokens + q.yield (now.since bucket.lastRefill))),
      max bucket.lastRefill now⟩
  | _ => ⟨room, now⟩

theorem refill_bucketFor (l : Limiter Rat) (key : Key) (q : Quota) (now : Instant) :
    (l.bucketFor key q now).1.refill q now = l.refilled key q now := by
  have hfull : (Bucket.full q now : Bucket Rat).refill q now =
      ⟨(max q.capacity 0 : Int), now⟩ := by
    rw [Bucket.mk.injEq]
    exact ⟨Bucket.refill_full q now, max_self now⟩
  unfold bucketFor refilled
  cases l.get? key with
  | none => exact hfull
  | some entry =>
    obtain ⟨bucket, poisoned⟩ := entry
    cases poisoned with
    | true => exact hfull
    | false =>
      rw [Bucket.mk.injEq]
      exact ⟨Bucket.refill_tokens q now bucket, rfl⟩

/-- The bucket of the key has been refilled, and nothing has been taken from it. -/
def Unpaid (l : Limiter Rat) (key : Key) (policy : Policy) (now : Instant) (l' : Limiter Rat) :
    Prop :=
  ∃ q, policy.quota = some q ∧ l'.get? key = some ⟨l.refilled key q now, false⟩

/-- The price of a call has been taken from the refilled bucket of its key, if there is a price. -/
structure Paid (l : Limiter Rat) (key : Key) (policy : Policy) (now : Instant) (l' : Limiter Rat) :
    Prop where
  off : policy.quota = none → l' = l
  on : ∀ q, policy.quota = some q → ∃ bucket, l'.get? key = some ⟨bucket, false⟩ ∧
    bucket.lastRefill = (l.refilled key q now).lastRefill ∧
    (l.refilled key q now).tokens - policy.tokenCost ≤ bucket.tokens ∧
    bucket.tokens ≤ (l.refilled key q now).tokens - policy.tokenCost + Quantity.slack

end Limiter

end Turnstile
