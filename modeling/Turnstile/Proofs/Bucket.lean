import Turnstile.Bucket
import Mathlib.Tactic.FieldSimp
import Mathlib.Tactic.Linarith
import Mathlib.Tactic.Ring
/-!
Buckets in exact arithmetic. What a bucket holds is paid for by the time that has passed, so that what
it grants between two requests is bounded by its capacity and by the yield of the time in between.
-/
namespace Turnstile

namespace Quantity

theorem floorZero_rat (x : Rat) : Quantity.floorZero x = max 0 x := by
  have hz : (Quantity.ofInt 0 : Rat) = 0 := Rat.intCast_zero
  rw [floorZero, hz]
  split
  · next hx => exact (max_eq_left (le_of_lt hx)).symm
  · next hx => exact (max_eq_right (le_of_not_gt hx)).symm

theorem clamp_rat {lo hi : Rat} (h : lo ≤ hi) (x : Rat) : clamp lo hi x = max lo (min hi x) := by
  unfold clamp
  split
  · next hx =>
    have hm : min hi x ≤ lo := (min_le_right hi x).trans hx.le
    exact (max_eq_left hm).symm
  · next hx =>
    have hx : lo ≤ x := le_of_not_gt hx
    rw [max_eq_right (le_min h hx)]
    split
    · next hy => exact (min_eq_left hy.le).symm
    · next hy => exact (min_eq_right (le_of_not_gt hy)).symm

end Quantity

def Quota.yield (q : Quota) (s : Span) : Rat := (max q.refillTokens 0 : Int) * s / q.refillInterval

theorem Quota.yield_add (q : Quota) (s t : Span) : q.yield (s + t) = q.yield s + q.yield t := by
  unfold yield
  push_cast
  ring

theorem Quota.yield_zero (q : Quota) : q.yield 0 = 0 := by
  simp [yield]

theorem Quota.yield_nonneg (q : Quota) (s : Span) : 0 ≤ q.yield s := by
  have hr : (0 : Rat) ≤ (max q.refillTokens 0 : Int) := by
    exact_mod_cast le_max_right q.refillTokens 0
  exact div_nonneg (mul_nonneg hr (Nat.cast_nonneg _)) (Nat.cast_nonneg _)

namespace Bucket

section Requests

variable {α : Type} [Quantity α]

theorem acquire_eq (q : Quota) (permits : Nat) (now : Instant) (b : Bucket α) :
    b.acquire q permits now =
      if (b.refill q now).covers q permits then
        (true, { b.refill q now with
          tokens := Quantity.floorZero ((b.refill q now).tokens - Quantity.ofInt permits) })
      else (false, b.refill q now) := rfl

theorem acquire_fst (q : Quota) (permits : Nat) (now : Instant) (b : Bucket α) :
    (b.acquire q permits now).1 = (b.refill q now).covers q permits := by
  rw [acquire_eq]
  split
  · next hc => exact hc.symm
  · next hn => exact (eq_false_of_ne_true hn).symm

theorem acquire_refused {q : Quota} {permits : Nat} {now : Instant} {b : Bucket α}
    (hr : (b.acquire q permits now).1 = false) : (b.acquire q permits now).2 = b.refill q now := by
  rw [acquire_eq] at hr ⊢
  split at hr
  · cases hr
  · next hn => rw [if_neg hn]

structure Request where
  permits : Nat
  instant : Instant
  deriving DecidableEq

def after (q : Quota) (b : Bucket α) (r : Request) : Bucket α := (b.acquire q r.permits r.instant).2

def run (q : Quota) (b : Bucket α) (rs : List Request) : Bucket α := rs.foldl (after q) b

def granted (q : Quota) (b : Bucket α) : List Request → List Nat
  | [] => []
  | r :: rs =>
    if (b.acquire q r.permits r.instant).1 then r.permits :: granted q (b.after q r) rs
    else granted q (b.after q r) rs

/-- The latest instant up to the last of some requests, from `start` on. -/
def latest (start : Instant) (rs : List Request) : Instant := (rs.map (·.instant)).foldl max start

theorem latest_append (start : Instant) (rs ss : List Request) :
    latest start (rs ++ ss) = latest (latest start rs) ss := by
  rw [latest, List.map_append, List.foldl_append]
  rfl

theorem le_latest (start : Instant) (rs : List Request) : start ≤ latest start rs := by
  induction rs generalizing start with
  | nil => exact le_rfl
  | cons r rs ih => exact (le_max_left start r.instant).trans (ih (max start r.instant))

theorem latest_cons_sub (start : Instant) (r : Request) (rs : List Request) :
    latest start (r :: rs) - start =
      r.instant.since start + (latest (max start r.instant) rs - max start r.instant) := by
  have hle : max start r.instant ≤ latest (max start r.instant) rs := le_latest _ rs
  have hsplit : ∀ a b c : Nat, max a b ≤ c → c - a = (b - a) + (c - max a b) := by omega
  exact hsplit _ _ _ hle

theorem lastRefill_after (q : Quota) (b : Bucket α) (r : Request) :
    (b.after q r).lastRefill = max b.lastRefill r.instant :=
  acquire_lastRefill q r.permits r.instant b

theorem lastRefill_run (q : Quota) (b : Bucket α) (rs : List Request) :
    (b.run q rs).lastRefill = latest b.lastRefill rs := by
  induction rs generalizing b with
  | nil => rfl
  | cons r rs ih =>
    have hrest := ih (b.after q r)
    rw [lastRefill_after] at hrest
    exact hrest

end Requests

variable {q : Quota} {permits : Nat} {now : Instant} {b : Bucket Rat} {r : Request}

theorem fullSize_rat (q : Quota) : (fullSize q : Rat) = (max q.capacity 0 : Int) := rfl

theorem fullSize_of_pos (hc : 0 < q.capacity) : (fullSize q : Rat) = q.capacity := by
  rw [fullSize_rat, max_eq_left hc.le]

theorem fullSize_nonneg (q : Quota) : (0 : Rat) ≤ fullSize q := by
  rw [fullSize_rat]
  exact_mod_cast le_max_right q.capacity 0

theorem accrued_rat (q : Quota) (tokens : Rat) (elapsed : Span) :
    accrued q tokens elapsed = tokens + q.yield elapsed := by
  have hzero : (Quantity.ofInt 0 : Rat) = 0 := Rat.intCast_zero
  have hseconds (s : Span) : (Quantity.seconds s : Rat) = s / 1000000000 := rfl
  simp only [accrued, hzero, hseconds, Quota.yield]
  split
  · next h =>
    have hr : max q.refillTokens 0 = q.refillTokens := max_eq_left h.1.le
    have hi : (q.refillInterval : Rat) ≠ 0 := by
      intro hi
      rw [hi, zero_div] at h
      exact lt_irrefl _ h.2
    rw [hr]
    change _ + _ * (q.refillTokens : Rat) = _
    field_simp
  · next h =>
    -- No tokens come back: there are none to give, or no time to give them in.
    by_cases hr : 0 < q.refillTokens
    · have hi : (q.refillInterval : Rat) = 0 := by
        by_contra hi
        have hpos : (0 : Rat) < q.refillInterval :=
          lt_of_le_of_ne (Nat.cast_nonneg _) (Ne.symm hi)
        exact h ⟨hr, div_pos hpos (by norm_num)⟩
      rw [hi, div_zero, add_zero]
    · have hr : max q.refillTokens 0 = 0 := max_eq_right (le_of_not_gt hr)
      simp [hr]

theorem refill_tokens (q : Quota) (now : Instant) (b : Bucket Rat) :
    (b.refill q now).tokens =
      max 0 (min (fullSize q) (b.tokens + q.yield (now.since b.lastRefill))) := by
  have hzero : (Quantity.ofInt 0 : Rat) = 0 := Rat.intCast_zero
  change Quantity.clamp (Quantity.ofInt 0) _ (accrued q b.tokens _) = _
  rw [hzero, accrued_rat, Quantity.clamp_rat (fullSize_nonneg q)]

theorem refill_nonneg (q : Quota) (now : Instant) (b : Bucket Rat) :
    0 ≤ (b.refill q now).tokens := by
  rw [refill_tokens]
  exact le_max_left _ _

theorem refill_le_fullSize (q : Quota) (now : Instant) (b : Bucket Rat) :
    (b.refill q now).tokens ≤ fullSize q := by
  rw [refill_tokens]
  exact max_le (fullSize_nonneg q) (min_le_left _ _)

theorem refill_le_yield (hb : 0 ≤ b.tokens) (q : Quota) (now : Instant) :
    (b.refill q now).tokens ≤ b.tokens + q.yield (now.since b.lastRefill) := by
  rw [refill_tokens]
  exact max_le (add_nonneg hb (q.yield_nonneg _)) (min_le_right _ _)

theorem refill_full (q : Quota) (now : Instant) :
    ((full q now : Bucket Rat).refill q now).tokens = fullSize q := by
  have hle : (fullSize q : Rat) ≤ fullSize q + q.yield (now.since now) :=
    le_add_of_nonneg_right (q.yield_nonneg _)
  rw [refill_tokens]
  change max 0 (min (fullSize q) (fullSize q + q.yield (now.since now))) = _
  rw [min_eq_left hle, max_eq_right (fullSize_nonneg q)]

theorem covers_iff :
    b.covers q permits = true ↔
      0 < q.capacity ∧ (permits : Rat) ≤ b.tokens + Quantity.slack := by
  rw [covers, Bool.and_eq_true, decide_eq_true_iff, Bool.not_eq_true', decide_eq_false_iff_not]
  exact and_congr_right fun _ => not_lt

theorem acquire_iff :
    (b.acquire q permits now).1 = true ↔
      0 < q.capacity ∧ (permits : Rat) ≤ (b.refill q now).tokens + Quantity.slack := by
  rw [acquire_fst, covers_iff]

/-- In exact arithmetic a granted request takes its price, or all there is if that is less. -/
theorem acquire_paid (hg : (b.acquire q permits now).1 = true) :
    (b.acquire q permits now).2 =
      { b.refill q now with tokens := max 0 ((b.refill q now).tokens - permits) } := by
  have hcost : (Quantity.ofInt permits : Rat) = permits := Rat.intCast_natCast permits
  rw [acquire_fst] at hg
  rw [acquire_eq, if_pos hg, hcost, Quantity.floorZero_rat]

theorem acquire_granted (hg : (b.acquire q permits now).1 = true) :
    let paid := (b.acquire q permits now).2
    let refilled := b.refill q now
    paid.lastRefill = refilled.lastRefill ∧
      refilled.tokens - permits ≤ paid.tokens ∧
      paid.tokens ≤ refilled.tokens - permits + Quantity.slack := by
  intro paid refilled
  have hpaid : paid = { refilled with tokens := max 0 (refilled.tokens - permits) } :=
    acquire_paid hg
  have hprice : (permits : Rat) ≤ refilled.tokens + Quantity.slack := (acquire_iff.1 hg).2
  have hslack : (0 : Rat) ≤ Quantity.slack := by decide +kernel
  rw [hpaid]
  refine ⟨rfl, le_max_right _ _, max_le ?_ ?_⟩
  · exact (sub_nonneg.2 hprice).trans (le_of_eq (add_sub_right_comm _ _ _))
  · exact le_add_of_nonneg_right hslack

theorem after_nonneg (q : Quota) (b : Bucket Rat) (r : Request) : 0 ≤ (b.after q r).tokens := by
  unfold after
  rw [acquire_eq]
  split
  · rw [Quantity.floorZero_rat]
    exact le_max_left _ _
  · exact refill_nonneg q r.instant b

theorem run_nonneg (hb : 0 ≤ b.tokens) (q : Quota) (rs : List Request) :
    0 ≤ (b.run q rs).tokens := by
  induction rs generalizing b with
  | nil => exact hb
  | cons r rs ih => exact ih (after_nonneg q b r)

theorem granted_cons (q : Quota) (b : Bucket Rat) (r : Request) (rs : List Request) :
    b.granted q (r :: rs) = b.granted q [r] ++ (b.after q r).granted q rs := by
  rw [granted, granted, granted]
  split <;> rfl

theorem after_spends (q : Quota) (b : Bucket Rat) (r : Request) :
    (b.after q r).tokens + (b.granted q [r]).sum ≤
      (b.refill q r.instant).tokens + (b.granted q [r]).length * Quantity.slack := by
  rw [granted, granted]
  split
  · next hg =>
    have hpaid := (acquire_granted hg).2.2
    simp only [List.sum_cons, List.sum_nil, List.length_cons, List.length_nil, after]
    push_cast
    linarith
  · next hg =>
    have hkept : b.after q r = b.refill q r.instant :=
      acquire_refused (Bool.eq_false_iff.2 hg)
    rw [hkept]
    simp

/-- What a run takes comes out of what the bucket held and what time has given back, up to the slack
of each grant. -/
theorem run_spends (hb : 0 ≤ b.tokens) (q : Quota) (rs : List Request) :
    (b.run q rs).tokens + (b.granted q rs).sum ≤
      b.tokens + q.yield (latest b.lastRefill rs - b.lastRefill) +
        (b.granted q rs).length * Quantity.slack := by
  induction rs generalizing b with
  | nil =>
    have hy : q.yield (latest b.lastRefill [] - b.lastRefill) = 0 := by
      rw [show latest b.lastRefill [] - b.lastRefill = 0 from Nat.sub_self _, q.yield_zero]
    simp [run, granted, hy]
  | cons r rs ih =>
    have hrest := ih (after_nonneg q b r)
    have hfirst := after_spends q b r
    have hrefill := refill_le_yield hb q r.instant
    rw [lastRefill_after] at hrest
    rw [granted_cons, latest_cons_sub, q.yield_add, List.sum_append, List.length_append]
    change ((b.after q r).run q rs).tokens + _ ≤ _
    rw [Nat.cast_add, Nat.cast_add]
    linarith

/-- However often a bucket is asked, for whatever prices, and wherever its clock jumps: what it grants
in any part of a run is at most its capacity, and what its rate yields over the part, and the slack
of each grant. The time of a part counts from its first request, by the latest instants seen. -/
theorem granted_le_burst_and_rate (q : Quota) (hc : 0 < q.capacity) (hr : 0 < q.refillTokens)
    (created : Instant) (before part : List Request) :
    let grants := ((full q created : Bucket Rat).run q before).granted q part
    let s := latest created (before ++ part.take 1)
    let e := latest created (before ++ part)
    (grants.sum : Rat) ≤
      q.capacity + q.refillTokens * (e - s) / q.refillInterval + grants.length * (1 / 1000000000) := by
  intro grants s e
  have hslack : (Quantity.slack : Rat) = 1 / 1000000000 := rfl
  have hfull : (fullSize q : Rat) = q.capacity := fullSize_of_pos hc
  have hyield (t : Span) : q.yield t = q.refillTokens * t / q.refillInterval := by
    rw [Quota.yield, max_eq_left hr.le]
  cases part with
  | nil =>
    have hse : s = e := rfl
    have hcap : (0 : Rat) ≤ q.capacity := by exact_mod_cast hc.le
    simp [grants, granted, hse, hcap]
  | cons r rs =>
    let b : Bucket Rat := (full q created).run q before
    have hs : (b.after q r).lastRefill = s := by
      rw [lastRefill_after, lastRefill_run]
      exact (latest_append created before [r]).symm
    have he : latest s rs = e := by
      rw [← hs, lastRefill_after, lastRefill_run]
      exact (latest_append created before (r :: rs)).symm
    have hle : s ≤ e := he ▸ le_latest s rs
    have hspan : ((e - s : Nat) : Rat) = e - s := Nat.cast_sub hle
    -- The first request spends what it finds, and the others what comes back behind it.
    have hrest := run_spends (after_nonneg q b r) q rs
    have hleft := run_nonneg (after_nonneg q b r) q rs
    have hfirst := after_spends q b r
    have hburst := refill_le_fullSize q r.instant b
    have hgrants : grants = b.granted q [r] ++ (b.after q r).granted q rs := granted_cons q b r rs
    rw [hs, he, hyield, hspan, hslack] at hrest
    rw [hslack] at hfirst
    rw [hfull] at hburst
    rw [hgrants, List.sum_append, List.length_append, Nat.cast_add, Nat.cast_add]
    linarith

/-- A burst of three at once and then one a second, with a request in between for which the clock has
gone back. All of capacity and rate is granted. -/
theorem burst_and_rate_used_up :
    let q : Quota := ⟨3, 1, 1000⟩
    let part : List Request :=
      [⟨3, Span.ofSecs 5⟩, ⟨1, Span.ofSecs 6⟩, ⟨1, Span.ofSecs 2⟩, ⟨1, Span.ofSecs 7⟩]
    let grants := (full q 0 : Bucket Rat).granted q part
    0 < q.capacity ∧ 0 < q.refillTokens ∧ grants.sum = 5 ∧
      latest 0 (part.take 1) = Span.ofSecs 5 ∧ latest 0 part = Span.ofSecs 7 ∧
      (grants.sum : Rat) ≤
        q.capacity + q.refillTokens * (latest 0 part - latest 0 (part.take 1)) / q.refillInterval +
          grants.length * (1 / 1000000000) := by
  intro q part grants
  have hsum : grants.sum = 5 := by decide +kernel
  have hbound := granted_le_burst_and_rate q (by decide) (by decide) 0 [] part
  exact ⟨by decide, by decide, hsum, by decide, by decide, hbound⟩

end Bucket
end Turnstile
