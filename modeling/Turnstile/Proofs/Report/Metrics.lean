import Turnstile.Report.Metrics
import Mathlib.Data.List.Nodup
import Mathlib.Algebra.BigOperators.Group.List.Basic
import Mathlib.Algebra.Ring.Nat
/-!
What metrics show. Every series is listed once, and one more in a series is one more in each sum that
the series is part of.
-/
namespace Turnstile.Metrics

variable {m m' : Metrics}

def series (m : Metrics) : List Series := m.values.map (·.1)

def total (p : Series → Bool) (m : Metrics) : Nat := ((m.listing.filter (p ·.1)).map (·.2)).sum

theorem listing_perm (m : Metrics) : m.listing.Perm m.values := List.mergeSort_perm _ _

theorem total_eq (p : Series → Bool) (m : Metrics) :
    m.total p = ((m.values.filter (p ·.1)).map (·.2)).sum :=
  ((m.listing_perm.filter _).map _).sum_eq

theorem value?_eq_none_iff {s : Series} : m.value? s = none ↔ s ∉ m.series := by
  simp only [value?, series, Option.map_eq_none_iff, List.find?_eq_none, beq_iff_eq, List.mem_map,
    not_exists, not_and]

theorem replace_absent {s : Series} {vs : List (Series × Nat)} (hs : s ∉ vs.map Prod.fst) (n : Nat) :
    vs.map (fun v => if v.1 == s then (s, n) else v) = vs := by
  refine (List.map_congr_left fun v hv => ?_).trans vs.map_id
  have hne : v.1 ≠ s := fun he => hs (he ▸ List.mem_map_of_mem hv)
  rw [if_neg (by simpa using hne), id]

/-- A value is put where the series had one before, or else at the end. -/
theorem set_split (hm : m.series.Nodup) (s : Series) (n : Nat) :
    ∃ front back, s ∉ front.map Prod.fst ++ back.map Prod.fst ∧
      m.values = front ++ ((m.value? s).map (Prod.mk s)).toList ++ back ∧
      (m.set s n).values = front ++ (s, n) :: back := by
  cases hv : m.value? s with
  | none =>
    have hs : s ∉ m.series := value?_eq_none_iff.1 hv
    exact ⟨m.values, [], by simpa [series] using hs, by simp, by simp [set, hv]⟩
  | some k =>
    obtain ⟨⟨s', k'⟩, hfind, rfl⟩ := Option.map_eq_some_iff.1 hv
    obtain rfl : s' = s := by simpa using List.find?_some hfind
    obtain ⟨front, back, hsplit⟩ := List.append_of_mem (List.mem_of_find?_eq_some hfind)
    have hfresh : s' ∉ front.map Prod.fst ++ back.map Prod.fst := by
      rw [series, hsplit, List.map_append, List.map_cons, List.nodup_middle, List.nodup_cons] at hm
      exact hm.1
    have hset : (m.set s' n).values = m.values.map fun v => if v.1 == s' then (s', n) else v := by
      rw [set, hv]
      rfl
    refine ⟨front, back, hfresh, by simpa using hsplit, ?_⟩
    rw [List.mem_append, not_or] at hfresh
    rw [hset, hsplit, List.map_append, List.map_cons, replace_absent hfresh.1 n,
      replace_absent hfresh.2 n, beq_self_eq_true, if_pos rfl]

theorem mem_series_set (hm : m.series.Nodup) {s s' : Series} {n : Nat} :
    s' ∈ (m.set s n).series ↔ s' ∈ m.series ∨ s' = s := by
  obtain ⟨front, back, -, hold, hnew⟩ := set_split hm s n
  rw [series, series, hold, hnew]
  cases m.value? s <;> simp <;> tauto

theorem nodup_set (hm : m.series.Nodup) (s : Series) (n : Nat) : (m.set s n).series.Nodup := by
  obtain ⟨front, back, hfresh, hold, hnew⟩ := set_split hm s n
  have hrest : (front.map Prod.fst ++ back.map Prod.fst).Nodup := by
    refine hm.sublist ?_
    rw [series, hold, List.map_append, List.map_append, List.append_assoc]
    exact List.Sublist.append_left (List.sublist_append_right _ _) _
  rw [series, hnew, List.map_append, List.map_cons, List.nodup_middle, List.nodup_cons]
  exact ⟨hfresh, hrest⟩

theorem total_increment (hm : m.series.Nodup) (p : Series → Bool) (s : Series) :
    (m.increment s).total p = m.total p + if p s then 1 else 0 := by
  obtain ⟨front, back, -, hold, hnew⟩ := set_split hm s ((m.value? s).getD 0 + 1)
  rw [total_eq, total_eq, increment, hnew, hold]
  cases m.value? s <;> cases hp : p s <;> simp [hp] <;> omega

/-- The metrics have a counter for each of `counted`, which says how often it stands there. -/
structure Shows (counted : List Series) (m : Metrics) : Prop where
  nodup : m.series.Nodup
  mem : ∀ s, s ∈ m.series ↔ s ∈ counted
  total : ∀ p, m.total p = counted.countP p

theorem shows_ofLimit (limit : Nat) : Shows [] (ofLimit limit) where
  nodup := List.nodup_nil
  mem := fun _ => Iff.rfl
  total := fun p => by simp [total_eq, ofLimit]

theorem Shows.increment {counted : List Series} (hm : Shows counted m) (s : Series) :
    Shows (counted ++ [s]) (m.increment s) where
  nodup := nodup_set hm.nodup s _
  mem := fun s' => by
    rw [Metrics.increment, mem_series_set hm.nodup, hm.mem, List.mem_append, List.mem_singleton]
  total := fun p => by
    rw [total_increment hm.nodup, hm.total, List.countP_append, List.countP_singleton]

theorem Shows.congr {counted : List Series} (hm : Shows counted m) (h : m.values = m'.values) :
    Shows counted m' where
  nodup := by
    rw [series, ← h]
    exact hm.nodup
  mem := fun s => by
    rw [series, ← h]
    exact hm.mem s
  total := fun p => by
    rw [total_eq, ← h, ← total_eq]
    exact hm.total p

theorem set_values_congr (h : m.values = m'.values) (s : Series) (n : Nat) :
    (m.set s n).values = (m'.set s n).values := by
  have hv : m.value? s = m'.value? s := by rw [value?, value?, h]
  unfold set
  rw [hv, h]
  split <;> rfl

theorem increment_values_congr (h : m.values = m'.values) (s : Series) :
    (m.increment s).values = (m'.increment s).values := by
  have hv : m.value? s = m'.value? s := by rw [value?, value?, h]
  rw [increment, increment, hv]
  exact set_values_congr h s _

theorem increment_tenants (m : Metrics) (s : Series) : (m.increment s).tenants = m.tenants := by
  unfold increment set
  split <;> rfl

theorem increment_tenantLimit (m : Metrics) (s : Series) :
    (m.increment s).tenantLimit = m.tenantLimit := by
  unfold increment set
  split <;> rfl

end Turnstile.Metrics
