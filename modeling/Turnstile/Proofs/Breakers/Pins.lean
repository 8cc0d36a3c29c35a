import Turnstile.Proofs.Breakers.Run
import Mathlib.Data.Multiset.Count
/-!
Permits keep their breakers. A registry counts the permits that are out for each key, and since no
sweep evicts a key with such a permit, each permit finds the breaker that gave it out.
-/
namespace Turnstile.Breakers

/-- A registry with the permits in `out` not given back yet. -/
structure Pinned (out : Multiset BreakerPermit) (r : Breakers) : Prop where
  distinct : r.registry.Distinct
  present : ∀ permit ∈ out, ∃ entry, r.holder? permit = some entry
  counted : ∀ key entry, r.entry? key = some entry → entry.holders = out.countP (·.key = key)

variable {out : Multiset BreakerPermit} {r r' : Breakers} {key : Key} {permit : BreakerPermit}
  {entry : BreakerEntry} {notices : List Notice}

theorem pinned_empty : Pinned 0 empty where
  distinct := Registry.distinct_empty
  present _ hp := absurd hp (Multiset.notMem_zero _)
  counted _ _ he := nomatch he

theorem Pinned.count_eq_zero (hp : Pinned out r) (he : r.entry? key = none) :
    out.countP (·.key = key) = 0 := by
  refine Multiset.countP_eq_zero.2 fun permit hm hk => ?_
  obtain ⟨entry, hh⟩ := hp.present permit hm
  have hs := (holder?_eq_some.1 hh).1
  rw [hk, he] at hs
  cases hs

theorem Pinned.entryFor_holders (hp : Pinned out r) (key : Key) (t : Thresholds) (now : Instant) :
    (r.entryFor key t now).1.holders = out.countP (·.key = key) := by
  cases he : r.entry? key with
  | none => rw [entryFor_eq_of_none he, hp.count_eq_zero he]
  | some entry =>
    rw [entryFor_eq_of_some he]
    exact hp.counted key entry he

theorem Pinned.set {out' : Multiset BreakerPermit} (hp : Pinned out r)
    (hr : r'.registry = r.registry.insert key entry)
    (hown : ∀ permit ∈ out', permit.key = key → permit.serial = entry.serial)
    (hrest : ∀ permit ∈ out', permit.key ≠ key → permit ∈ out)
    (hcount : entry.holders = out'.countP (·.key = key))
    (hsame : ∀ other, other ≠ key → out'.countP (·.key = other) = out.countP (·.key = other)) :
    Pinned out' r' := by
  have hself : r'.entry? key = some entry := by
    rw [entry?_eq_get?, hr]
    exact Registry.get?_insert_self _ _ _
  have hother : ∀ other, other ≠ key → r'.entry? other = r.entry? other := by
    intro other hne
    rw [entry?_eq_get?, hr]
    exact Registry.get?_insert_of_ne _ _ hne
  refine ⟨?_, fun permit hm => ?_, fun other e he => ?_⟩
  · rw [hr]
    exact hp.distinct.insert key entry
  · by_cases hk : permit.key = key
    · exact ⟨entry, holder?_eq_some.2 ⟨hk ▸ hself, (hown permit hm hk).symm⟩⟩
    · obtain ⟨e, hh⟩ := hp.present permit (hrest permit hm hk)
      rw [holder?_eq_some] at hh
      exact ⟨e, holder?_eq_some.2 ⟨(hother permit.key hk).trans hh.1, hh.2⟩⟩
  · by_cases hk : other = key
    · subst hk
      cases hself.symm.trans he
      exact hcount
    · rw [hsame other hk]
      exact hp.counted other e (hother other hk ▸ he)

theorem Pinned.entryFor_serial (hp : Pinned out r) (t : Thresholds) (now : Instant)
    (hm : permit ∈ out) : permit.serial = (r.entryFor permit.key t now).1.serial := by
  obtain ⟨entry, hh⟩ := hp.present permit hm
  obtain ⟨he, hs⟩ := holder?_eq_some.1 hh
  rw [entryFor_eq_of_some he, hs]

theorem Pinned.admitted (hp : Pinned out r) {t : Thresholds} {now : Instant}
    (ha : r.acquire key t now = (.admitted permit, notices, r')) :
    Pinned (permit ::ₘ out) r' := by
  simp only [acquire] at ha
  split at ha
  · cases ha
    refine hp.set (congrArg (Registry.insert · key _) (registry_entryFor r key t now)) ?_ ?_ ?_ ?_
    · intro p hm hk
      rcases Multiset.mem_cons.1 hm with rfl | hm
      · rfl
      · exact hk ▸ hp.entryFor_serial t now hm
    · intro p hm hk
      exact (Multiset.mem_cons.1 hm).resolve_left fun he => hk (he ▸ rfl)
    · rw [Multiset.countP_cons, if_pos rfl]
      exact congrArg (· + 1) (hp.entryFor_holders key t now)
    · intro other hne
      exact Multiset.countP_cons_of_neg _ fun he => hne he.symm
  · cases ha

theorem Pinned.rejected (hp : Pinned out r) {t : Thresholds} {now : Instant} {state : Circuit}
    {denial : Denial} (ha : r.acquire key t now = (.rejected state denial, notices, r')) :
    Pinned out r' := by
  simp only [acquire] at ha
  split at ha
  · cases ha
  · cases ha
    exact hp.set (congrArg (Registry.insert · key _) (registry_entryFor r key t now))
      (fun p hm hk => hk ▸ hp.entryFor_serial t now hm) (fun p hm _ => hm)
      (hp.entryFor_holders key t now) (fun _ _ => rfl)

theorem Pinned.settled (hp : Pinned (permit ::ₘ out) r) (breaker : Breaker)
    (hh : r.holder? permit = some entry)
    (hr : r'.registry =
      r.registry.insert permit.key { entry with breaker, holders := entry.holders - 1 }) :
    Pinned out r' := by
  obtain ⟨he, hs⟩ := holder?_eq_some.1 hh
  refine hp.set hr (fun p hm hk => ?_) (fun p hm _ => Multiset.mem_cons_of_mem hm) ?_ ?_
  · obtain ⟨e, hh'⟩ := hp.present p (Multiset.mem_cons_of_mem hm)
    obtain ⟨he', hs'⟩ := holder?_eq_some.1 hh'
    rw [hk, he] at he'
    cases he'
    exact hs'.symm
  · have hc := hp.counted permit.key entry he
    rw [Multiset.countP_cons, if_pos rfl] at hc
    exact Nat.sub_eq_of_eq_add hc
  · intro other hne
    exact (Multiset.countP_cons_of_neg _ fun hk => hne hk.symm).symm

theorem Pinned.complete (hp : Pinned (permit ::ₘ out) r) (outcome : Outcome) (elapsed : Span)
    (now : Instant) : Pinned out (r.complete permit outcome elapsed now).2.2 := by
  obtain ⟨entry, hh⟩ := hp.present permit (Multiset.mem_cons_self permit out)
  refine hp.settled (entry.breaker.record permit.ticket outcome elapsed now).2.2 hh ?_
  simp only [Breakers.complete, hh]
  rfl

theorem Pinned.sweep (hp : Pinned out r) (now : Instant) (retention : Retention) :
    Pinned out (r.sweep now retention).1 where
  distinct := hp.distinct.sweep tracking now retention.idleEviction retention.maxKeys
  present permit hm := by
    obtain ⟨entry, hh⟩ := hp.present permit hm
    obtain ⟨he, hs⟩ := holder?_eq_some.1 hh
    have hpos : 0 < out.countP (·.key = permit.key) := Multiset.countP_pos.2 ⟨permit, hm, rfl⟩
    have hheld : tracking.held entry = true := by
      rw [← hp.counted permit.key entry he] at hpos
      simpa [tracking] using Nat.ne_of_gt hpos
    exact ⟨entry, holder?_eq_some.2 ⟨hp.distinct.get?_sweep_of_held tracking now
      retention.idleEviction retention.maxKeys he hheld, hs⟩⟩
  counted key entry he := hp.counted key entry (entry?_of_after_sweep hp.distinct he)

end Turnstile.Breakers
