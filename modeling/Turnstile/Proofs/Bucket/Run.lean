import Turnstile.Proofs.Bucket
import Mathlib.Algebra.Order.AbsoluteValue.Basic
import Mathlib.Data.List.Induction
import Mathlib.Order.Bounds.Basic
/-!
Runs of one bucket under quotas that may change with every input. In exact arithmetic what the bucket
holds stays between zero and the capacity of the last quota, and what is refused is not taken.
-/
namespace Turnstile.Bucket

inductive Input where
  | acquire (q : Quota) (permits : Nat) (now : Instant)
  | available (q : Quota) (now : Instant)
  deriving DecidableEq

namespace Input

def quota : Input → Quota
  | acquire q _ _ => q
  | available q _ => q

def instant : Input → Instant
  | acquire _ _ now => now
  | available _ now => now

end Input

inductive Turn (α : Type) where
  | acquired (q : Quota) (permits : Nat) (now : Instant) (granted : Bool)
  | inspected (q : Quota) (now : Instant) (tokens : α)
  deriving DecidableEq

namespace Turn

variable {α : Type}

def input : Turn α → Input
  | acquired q permits now _ => .acquire q permits now
  | inspected q now _ => .available q now

def granted : Turn α → Bool
  | acquired _ _ _ granted => granted
  | inspected .. => false

end Turn

section Runs

variable {α : Type} [Quantity α]

def step (b : Bucket α) : Input → Turn α × Bucket α
  | .acquire q permits now =>
    let (granted, next) := b.acquire q permits now
    (.acquired q permits now granted, next)
  | .available q now =>
    let (tokens, next) := b.available q now
    (.inspected q now tokens, next)

def reach (b : Bucket α) : List Input → Bucket α
  | [] => b
  | i :: is => reach (b.step i).2 is

def history (b : Bucket α) : List Input → List (Turn α)
  | [] => []
  | i :: is => (b.step i).1 :: history (b.step i).2 is

theorem reach_append (b : Bucket α) (is js : List Input) :
    b.reach (is ++ js) = (b.reach is).reach js := by
  induction is generalizing b with
  | nil => rfl
  | cons i is ih => exact ih (b.step i).2

theorem step_input (b : Bucket α) (i : Input) : (b.step i).1.input = i := by
  cases i <;> rfl

theorem step_lastRefill (b : Bucket α) (i : Input) :
    (b.step i).2.lastRefill = max b.lastRefill i.instant := by
  cases i with
  | acquire q permits now => exact acquire_lastRefill q permits now b
  | available q now => rfl

theorem step_of_not_granted {b : Bucket α} {i : Input} (hn : (b.step i).1.granted = false) :
    (b.step i).2 = b.refill i.quota i.instant := by
  cases i with
  | acquire q permits now => exact acquire_refused hn
  | available q now => rfl

theorem step_congr {b c : Bucket α} {i : Input}
    (he : b.refill i.quota i.instant = c.refill i.quota i.instant) : b.step i = c.step i := by
  cases i with
  | acquire q permits now =>
    have he : b.refill q now = c.refill q now := he
    simp only [step, acquire_eq, he]
  | available q now =>
    have he : b.refill q now = c.refill q now := he
    simp only [step, available, he]

theorem isGreatest_reach (b : Bucket α) (is : List Input) :
    IsGreatest {t | t ∈ b.lastRefill :: is.map Input.instant} (b.reach is).lastRefill := by
  induction is using List.reverseRecOn with
  | nil => exact ⟨List.mem_singleton_self _, fun t ht => (List.mem_singleton.1 ht).le⟩
  | append_singleton is i ih =>
    have hlast : (b.reach (is ++ [i])).lastRefill = max (b.reach is).lastRefill i.instant := by
      rw [reach_append]
      exact step_lastRefill (b.reach is) i
    have hseen : {t | t ∈ b.lastRefill :: (is ++ [i]).map Input.instant} =
        {t | t ∈ b.lastRefill :: is.map Input.instant} ∪ {i.instant} := by
      ext t
      simp only [List.map_append, List.map_cons, List.map_nil, ← List.cons_append, List.mem_append,
        List.mem_singleton, Set.mem_ofPred_eq, Set.mem_union, Set.mem_singleton_iff]
    rw [hlast, hseen]
    exact ih.union isGreatest_singleton

end Runs

attribute [ext] Bucket

variable {b : Bucket Rat}

/-- Whatever a bucket holds, the next input leaves it within the capacity of its quota. -/
theorem step_bounds (b : Bucket Rat) (i : Input) :
    0 ≤ (b.step i).2.tokens ∧ (b.step i).2.tokens ≤ (b.refill i.quota i.instant).tokens := by
  cases i with
  | acquire q permits now =>
    change 0 ≤ (b.acquire q permits now).2.tokens ∧ (b.acquire q permits now).2.tokens ≤ _
    rw [acquire_eq]
    split
    · have hcost : (Quantity.ofInt permits : Rat) = permits := Rat.intCast_natCast permits
      rw [hcost, Quantity.floorZero_rat]
      exact ⟨le_max_left _ _,
        max_le (refill_nonneg q now b) (sub_le_self _ (Nat.cast_nonneg permits))⟩
    · exact ⟨refill_nonneg q now b, le_rfl⟩
  | available q now => exact ⟨refill_nonneg q now b, le_rfl⟩

theorem reach_nonneg (hb : 0 ≤ b.tokens) (is : List Input) : 0 ≤ (b.reach is).tokens := by
  induction is generalizing b with
  | nil => exact hb
  | cons i is ih => exact ih (step_bounds b i).1

theorem yield_split (q : Quota) (past : Instant) {mid now : Instant} (hm : mid ≤ now) :
    q.yield (now.since past) = q.yield (mid.since past) + q.yield (now.since (max past mid)) := by
  have hsplit : ∀ past mid now : Nat, mid ≤ now →
      now - past = (mid - past) + (now - max past mid) := by omega
  rw [← q.yield_add]
  exact congrArg q.yield (hsplit past mid now hm)

/-- A bucket that is refilled on the way is refilled to the same in the end. -/
theorem refill_refill (hb : 0 ≤ b.tokens) (q : Quota) {mid now : Instant} (hm : mid ≤ now) :
    (b.refill q mid).refill q now = b.refill q now := by
  have hlast : max (max b.lastRefill mid) now = max b.lastRefill now := by
    rw [max_assoc, max_eq_right hm]
  have htokens : ((b.refill q mid).refill q now).tokens = (b.refill q now).tokens := by
    have hfirst : 0 ≤ b.tokens + q.yield (mid.since b.lastRefill) :=
      add_nonneg hb (q.yield_nonneg _)
    have hsecond : 0 ≤ q.yield (now.since (max b.lastRefill mid)) := q.yield_nonneg _
    have hfull : (0 : Rat) ≤ fullSize q := fullSize_nonneg q
    -- Time only gives, so what the first cut takes off would be cut off in the end as well.
    have hcut : ∀ full x y : Rat, 0 ≤ full → 0 ≤ x → 0 ≤ y →
        max 0 (min full (max 0 (min full x) + y)) = max 0 (min full (x + y)) := by
      intro full x y hfull hx hy
      rw [max_eq_right (le_min hfull hx), min_add, ← min_assoc,
        min_eq_left (le_add_of_nonneg_right hy)]
    rw [refill_tokens q now (b.refill q mid), refill_tokens q mid b, refill_tokens q now b,
      refill_lastRefill, yield_split q b.lastRefill hm, ← add_assoc]
    exact hcut _ _ _ hfull hfirst hsecond
  exact Bucket.ext htokens hlast

/-- Under quotas that change as they like, at instants in any order: after each input the bucket holds
no less than nothing and no more than the capacity of the quota of that input, no more than it held
before and what this quota yields for the time since, and its last access is the latest instant that
it has seen. A request is granted if and only if the capacity is positive and the balance at that
instant covers the price up to the slack; the price is taken down to zero, and what is refused leaves
the balance as it is. -/
theorem changing_quota_law (q₀ : Quota) (created : Instant) (is : List Input) :
    let b := (full q₀ created : Bucket Rat).reach is
    (∀ i,
      let next := (b.step i).2
      0 ≤ next.tokens ∧ next.tokens ≤ (max i.quota.capacity 0 : Int) ∧
        next.tokens ≤ b.tokens + i.quota.yield (i.instant.since b.lastRefill) ∧
        IsGreatest {t | t ∈ created :: (is ++ [i]).map Input.instant} next.lastRefill) ∧
    ∀ (q : Quota) (permits : Nat) (now : Instant),
      let balance := (b.available q now).1
      let answer := b.acquire q permits now
      (answer.1 = true ↔ 0 < q.capacity ∧ (permits : Rat) ≤ balance + 1 / 1000000000) ∧
        (answer.1 = true →
          answer.2.tokens = max 0 (balance - permits) ∧
            |answer.2.tokens - (balance - permits)| ≤ 1 / 1000000000) ∧
        (answer.1 = false → (answer.2.available q now).1 = balance) := by
  intro b
  have hnew : 0 ≤ (full q₀ created : Bucket Rat).tokens := fullSize_nonneg q₀
  have hb : 0 ≤ b.tokens := reach_nonneg hnew is
  refine ⟨fun i => ?_, fun q permits now => ⟨acquire_iff, fun hg => ⟨?_, ?_⟩, fun hr => ?_⟩⟩
  · obtain ⟨hnonneg, hle⟩ := step_bounds b i
    have hseen := isGreatest_reach (full q₀ created : Bucket Rat) (is ++ [i])
    rw [reach_append] at hseen
    exact ⟨hnonneg, hle.trans (refill_le_fullSize i.quota i.instant b),
      hle.trans (refill_le_yield hb i.quota i.instant), hseen⟩
  · rw [acquire_paid hg]
    rfl
  · obtain ⟨-, hlow, hhigh⟩ := acquire_granted hg
    exact abs_sub_le_iff.2 ⟨sub_le_iff_le_add'.2 hhigh,
      (sub_nonpos.2 hlow).trans (by norm_num)⟩
  · have hkept : (b.refill q now).refill q now = b.refill q now := refill_refill hb q le_rfl
    rw [acquire_refused hr]
    exact congrArg Bucket.tokens hkept

/-- A hundred tokens are cut to two and grow by one a second; the clock goes back in between. -/
theorem no_burst_after_growth :
    let large : Quota := ⟨100, 100, 1000⟩
    let small : Quota := ⟨2, 1, 1000⟩
    let is := [Input.acquire small 1 (Span.ofSecs 5), .available small (Span.ofSecs 3)]
    let b := (full large 0 : Bucket Rat).reach is
    b.tokens = 1 ∧ (b.available large (Span.ofSecs 5)).1 = 1 ∧
      (b.acquire large 2 (Span.ofSecs 4)).1 = false ∧
      ((b.acquire large 2 (Span.ofSecs 4)).2.available large (Span.ofSecs 4)).1 = 1 := by
  intro large small is b
  have hbalance : (b.available large (Span.ofSecs 4)).1 = 1 := by decide +kernel
  have hr : (b.acquire large 2 (Span.ofSecs 4)).1 = false := by decide +kernel
  have key := (changing_quota_law large 0 is).2 large 2 (Span.ofSecs 4)
  exact ⟨by decide +kernel, by decide +kernel, hr, (key.2.2 hr).trans hbalance⟩

end Turnstile.Bucket
