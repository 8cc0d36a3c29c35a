import Turnstile.Proofs.Registry
/-!
The contract of a sweep. What has been idle for too long goes, unless it is held; then as many entries
go for room as there are too many, as far as they are not held, and those used least recently first.
-/
namespace Turnstile.Registry

variable {α : Type} (t : Tracking α) (now : Instant) (idle : Span) (maxKeys : Nat)

/-- What a sweep may do to a registry: it leaves `kept`, and it has evicted `removed` entries. -/
structure Swept (r kept : Registry α) (removed : Nat) : Prop where
  distinct : kept.Distinct
  unchanged : ∀ e ∈ kept.entries, e ∈ r.entries
  held_stays : ∀ e ∈ r.entries, t.held e.2 = true → e ∈ kept.entries
  idle_goes : ∀ e ∈ kept.entries, t.held e.2 = false → now.since (t.lastAccess e.2) < idle
  surplus : ((live t now idle r).filter fun e => !kept.contains e.1).length =
    min ((live t now idle r).length - maxKeys)
      ((live t now idle r).filter fun e => !t.held e.2).length
  oldest_goes : ∀ e ∈ live t now idle r, kept.contains e.1 = false →
    t.held e.2 = false ∧
      ∀ f ∈ kept.entries, t.held f.2 = false → t.lastAccess e.2 ≤ t.lastAccess f.2
  counted : removed + kept.size = r.size

section Victims

variable {t now idle maxKeys} {r : Registry α} {e f : Key × α}

theorem survives_iff :
    survives t now idle e = true ↔
      t.held e.2 = true ∨ now.since (t.lastAccess e.2) < idle := by
  simp [survives]

theorem mem_live :
    e ∈ live t now idle r ↔ e ∈ r.entries ∧ survives t now idle e = true := List.mem_filter

theorem lastAccess_le_trans (a b c : Key × α) :
    decide (t.lastAccess a.2 ≤ t.lastAccess b.2) = true →
      decide (t.lastAccess b.2 ≤ t.lastAccess c.2) = true →
      decide (t.lastAccess a.2 ≤ t.lastAccess c.2) = true := by
  simpa using Nat.le_trans

theorem lastAccess_le_total (a b : Key × α) :
    (decide (t.lastAccess a.2 ≤ t.lastAccess b.2) ||
      decide (t.lastAccess b.2 ≤ t.lastAccess a.2)) = true := by
  simpa using Nat.le_total _ _

theorem pairwise_evictable (entries : List (Key × α)) :
    (evictable t entries).Pairwise fun a b => t.lastAccess a.2 ≤ t.lastAccess b.2 :=
  (List.pairwise_mergeSort lastAccess_le_trans lastAccess_le_total _).imp of_decide_eq_true

theorem length_victims :
    (victims t now idle maxKeys r).length =
      min ((live t now idle r).length - maxKeys)
        ((live t now idle r).filter fun e => !t.held e.2).length := by
  rw [victims, List.length_take, (evictable_perm t _).length_eq]

theorem lastAccess_le_of_victim (hv : e ∈ victims t now idle maxKeys r)
    (hf : f ∈ live t now idle r) (hfree : t.held f.2 = false)
    (hn : f ∉ victims t now idle maxKeys r) : t.lastAccess e.2 ≤ t.lastAccess f.2 := by
  have hsorted := pairwise_evictable (t := t) (live t now idle r)
  have hmem : f ∈ evictable t (live t now idle r) := mem_evictable.2 ⟨hf, hfree⟩
  rw [← List.take_append_drop ((live t now idle r).length - maxKeys) (evictable t _)]
    at hsorted hmem
  exact (List.pairwise_append.1 hsorted).2.2 e hv f ((List.mem_append.1 hmem).resolve_left hn)

theorem Distinct.nodup (hr : r.Distinct) : r.entries.Nodup := List.Nodup.of_map _ hr

theorem Distinct.nodup_live (hr : r.Distinct) : (live t now idle r).Nodup := hr.nodup.filter _

theorem Distinct.nodup_victims (hr : r.Distinct) : (victims t now idle maxKeys r).Nodup := by
  have hlive : (evictable t (live t now idle r)).Nodup :=
    (evictable_perm t _).nodup_iff.2 (hr.nodup_live.filter _)
  exact hlive.sublist (List.take_sublist _ _)

theorem Distinct.mem_sweep (hr : r.Distinct) :
    e ∈ (Registry.sweep t now idle maxKeys r).1.entries ↔
      e ∈ live t now idle r ∧ e ∉ victims t now idle maxKeys r := by
  have hkey : e ∈ live t now idle r →
      (e.1 ∈ (victims t now idle maxKeys r).map (·.1) ↔ e ∈ victims t now idle maxKeys r) := by
    refine fun he => ⟨fun hv => ?_, fun hv => List.mem_map.2 ⟨e, hv, rfl⟩⟩
    obtain ⟨f, hf, hk⟩ := List.mem_map.1 hv
    have hfe : f = e :=
      hr.eq_of_mem (mem_live.1 (mem_of_mem_victims hf).1).1 (mem_live.1 he).1 hk
    exact hfe ▸ hf
  rw [sweep_fst, List.mem_filter, Bool.not_eq_true', List.contains_eq_mem, decide_eq_false_iff_not]
  exact and_congr_right fun he => not_congr (hkey he)

theorem Distinct.contains_iff_mem (hr : r.Distinct) {kept : Registry α} (hk : kept.Distinct)
    (hsub : ∀ f ∈ kept.entries, f ∈ r.entries) (he : e ∈ r.entries) :
    kept.contains e.1 = true ↔ e ∈ kept.entries := by
  rw [contains_iff]
  refine ⟨fun ⟨value, hv⟩ => ?_, fun hm => ⟨e.2, hk.get?_eq_some.2 hm⟩⟩
  have hm := mem_of_get? hv
  exact hr.eq_of_mem (hsub _ hm) he rfl ▸ hm

/-- What a sweep evicts for room, in the order in which it stood in the registry. -/
theorem Distinct.surplus_perm (hr : r.Distinct) :
    ((live t now idle r).filter fun e =>
      !(Registry.sweep t now idle maxKeys r).1.contains e.1).Perm (victims t now idle maxKeys r) := by
  refine (List.perm_ext_iff_of_nodup (hr.nodup_live.filter _) hr.nodup_victims).2 fun e => ?_
  rw [List.mem_filter, Bool.not_eq_true']
  by_cases he : e ∈ live t now idle r
  · have hstays := hr.contains_iff_mem (hr.sweep t now idle maxKeys)
      (fun f hf => (sweep_sublist t now idle maxKeys r).subset hf) (mem_live.1 he).1
    rw [← Bool.not_eq_true, hstays, hr.mem_sweep, and_iff_right he, and_iff_right he, not_not]
  · exact iff_of_false (fun h => he h.1) fun hv => he (mem_of_mem_victims hv).1

end Victims

section Contract

variable {t now idle maxKeys} {r kept : Registry α} {removed : Nat}

theorem Distinct.swept (hr : r.Distinct) :
    Swept t now idle maxKeys r (Registry.sweep t now idle maxKeys r).1
      (Registry.sweep t now idle maxKeys r).2 where
  distinct := hr.sweep t now idle maxKeys
  unchanged e he := (sweep_sublist t now idle maxKeys r).subset he
  held_stays e he hh := by
    have hlive : e ∈ live t now idle r := mem_live.2 ⟨he, survives_iff.2 (.inl hh)⟩
    refine hr.mem_sweep.2 ⟨hlive, fun hv => ?_⟩
    exact Bool.noConfusion (hh.symm.trans (mem_of_mem_victims hv).2)
  idle_goes e he hf := by
    have hs := survives_iff.1 (mem_live.1 (hr.mem_sweep.1 he).1).2
    exact hs.resolve_left (Bool.eq_false_iff.1 hf)
  surplus := by rw [hr.surplus_perm.length_eq, length_victims]
  oldest_goes e he hgone := by
    have hv : e ∈ victims t now idle maxKeys r :=
      hr.surplus_perm.mem_iff.1 (List.mem_filter.2 ⟨he, by rw [hgone]; rfl⟩)
    refine ⟨(mem_of_mem_victims hv).2, fun f hf hfree => ?_⟩
    obtain ⟨hlive, hn⟩ := hr.mem_sweep.1 hf
    exact lastAccess_le_of_victim hv hlive hfree hn
  counted := hr.sweep_snd t now idle maxKeys

theorem Swept.of_perm {listed : Registry α} (hs : Swept t now idle maxKeys listed kept removed)
    (hl : listed.entries.Perm r.entries) : Swept t now idle maxKeys r kept removed := by
  have hlive : (live t now idle listed).Perm (live t now idle r) := hl.filter _
  exact {
    distinct := hs.distinct
    unchanged := fun e he => hl.mem_iff.1 (hs.unchanged e he)
    held_stays := fun e he => hs.held_stays e (hl.mem_iff.2 he)
    idle_goes := hs.idle_goes
    surplus := by
      rw [← (hlive.filter _).length_eq, ← (hlive.filter _).length_eq, ← hlive.length_eq]
      exact hs.surplus
    oldest_goes := fun e he => hs.oldest_goes e (hlive.mem_iff.2 he)
    counted := hs.counted.trans hl.length_eq }

theorem Swept.live (hs : Swept t now idle maxKeys r kept removed) {e : Key × α}
    (he : e ∈ kept.entries) : survives t now idle e = true := by
  cases hh : t.held e.2 with
  | true => exact survives_iff.2 (.inl hh)
  | false => exact survives_iff.2 (.inr (hs.idle_goes e he hh))

theorem Swept.length_live (hr : r.Distinct) (hs : Swept t now idle maxKeys r kept removed) :
    (Registry.live t now idle r).length =
      kept.size + ((Registry.live t now idle r).filter fun e => !kept.contains e.1).length := by
  have hstay : ((Registry.live t now idle r).filter fun e => kept.contains e.1).Perm
      kept.entries := by
    refine (List.perm_ext_iff_of_nodup (hr.nodup_live.filter _) hs.distinct.nodup).2 fun e => ?_
    rw [List.mem_filter]
    refine ⟨fun ⟨he, hc⟩ => ?_, fun he => ?_⟩
    · exact (hr.contains_iff_mem hs.distinct hs.unchanged (mem_live.1 he).1).1 hc
    · have hm := hs.unchanged e he
      exact ⟨mem_live.2 ⟨hm, hs.live he⟩,
        (hr.contains_iff_mem hs.distinct hs.unchanged hm).2 he⟩
  rw [List.length_eq_length_filter_add fun e => kept.contains e.1, hstay.length_eq]
  rfl

theorem Swept.bounded (hr : r.Distinct) (hs : Swept t now idle maxKeys r kept removed) :
    kept.size ≤ maxKeys ∨ ∀ e ∈ kept.entries, t.held e.2 = true := by
  by_contra! hover
  obtain ⟨hsize, e, he, hfree⟩ := hover
  let surplus := (Registry.live t now idle r).filter fun e => !kept.contains e.1
  let free := (Registry.live t now idle r).filter fun e => !t.held e.2
  have hlength := hs.length_live hr
  have hsurplus := hs.surplus
  -- Too many have been kept, so all that could be evicted has been, and `e` with it.
  have hall : free.length ≤ surplus.length := by
    change surplus.length = min _ free.length at hsurplus
    change _ = _ + surplus.length at hlength
    omega
  have hsub : surplus ⊆ free := fun f hf => by
    obtain ⟨hf, hgone⟩ := List.mem_filter.1 hf
    rw [Bool.not_eq_true'] at hgone
    exact List.mem_filter.2 ⟨hf, by rw [(hs.oldest_goes f hf hgone).1]; rfl⟩
  have hperm : surplus.Perm free :=
    (List.subperm_of_subset (hr.nodup_live.filter _) hsub).perm_of_length_le hall
  have hmem : e ∈ free :=
    List.mem_filter.2 ⟨mem_live.2 ⟨hs.unchanged e he, hs.live he⟩, by simpa using hfree⟩
  have hgone := (List.mem_filter.1 (hperm.mem_iff.2 hmem)).2
  rw [(hr.contains_iff_mem hs.distinct hs.unchanged (hs.unchanged e he)).2 he] at hgone
  exact Bool.noConfusion hgone

theorem sweep_eq_self (hlive : ∀ e ∈ r.entries, survives t now idle e = true)
    (hroom : r.size ≤ maxKeys ∨ ∀ e ∈ r.entries, t.held e.2 = true) :
    Registry.sweep t now idle maxKeys r = (r, 0) := by
  have hall : Registry.live t now idle r = r.entries := List.filter_eq_self.2 hlive
  have hnone : victims t now idle maxKeys r = [] := by
    rw [← List.length_eq_zero_iff, length_victims, hall]
    rcases hroom with hsize | hheld
    · rw [show r.entries.length - maxKeys = 0 from Nat.sub_eq_zero_of_le hsize, Nat.zero_min]
    · have hfree : (r.entries.filter fun e => !t.held e.2) = [] :=
        List.filter_eq_nil_iff.2 fun e he => by simp [hheld e he]
      rw [hfree, List.length_nil, Nat.min_zero]
  have hidle : (r.entries.countP fun e => !survives t now idle e) = 0 :=
    List.countP_eq_zero.2 fun e he => by simp [hlive e he]
  rw [Registry.sweep, hall, hnone, hidle]
  rfl

/-- In whatever order the entries come: a sweep leaves what is held, and nothing else that has been idle
for too long; of what lives it evicts, the least recently used first, as many entries as there are too
many, or all that are not held if those are fewer; and it tells how many it has evicted. So it leaves
no more than there may be, or held entries alone, and the same sweep at once again evicts nothing. -/
theorem sweep_contract (hr : r.Distinct) {listed : Registry α}
    (hl : listed.entries.Perm r.entries) :
    let kept := (Registry.sweep t now idle maxKeys listed).1
    let removed := (Registry.sweep t now idle maxKeys listed).2
    Swept t now idle maxKeys r kept removed ∧
      (kept.size ≤ maxKeys ∨ ∀ e ∈ kept.entries, t.held e.2 = true) ∧
      ∀ again : Registry α, again.entries.Perm kept.entries →
        Registry.sweep t now idle maxKeys again = (again, 0) := by
  intro kept removed
  have hlisted : listed.Distinct := (hl.map _).nodup_iff.2 hr
  have hs : Swept t now idle maxKeys r kept removed := hlisted.swept.of_perm hl
  refine ⟨hs, hs.bounded hr, fun again ha => sweep_eq_self (fun e he => ?_) ?_⟩
  · exact hs.live (ha.mem_iff.1 he)
  · have hsize : again.size = kept.size := ha.length_eq
    rw [hsize]
    exact (hs.bounded hr).imp_right fun hheld e he => hheld e (ha.mem_iff.1 he)

end Contract

/-- One key is held, one has been idle, two were used last at the same instant, and the last access of
one lies ahead. There is room for two. -/
theorem tied_keys_make_room :
    let t : Tracking (Instant × Bool) := ⟨Prod.fst, Prod.snd⟩
    let r : Registry (Instant × Bool) :=
      ⟨[(⟨"old"⟩, 10, false), (⟨"a"⟩, 40, false), (⟨"held"⟩, 5, true), (⟨"b"⟩, 40, false),
        (⟨"ahead"⟩, 90, false)]⟩
    let listed : Registry (Instant × Bool) := ⟨r.entries.reverse⟩
    let kept := (Registry.sweep t 60 30 2 listed).1
    r.Distinct ∧ listed.entries.Perm r.entries ∧
      kept.entries = [(⟨"ahead"⟩, 90, false), (⟨"held"⟩, 5, true)] ∧
      Swept t 60 30 2 r kept 3 ∧ Registry.sweep t 60 30 2 kept = (kept, 0) := by
  intro t r listed kept
  have hr : r.Distinct := by unfold Distinct; decide
  have hl : listed.entries.Perm r.entries := List.reverse_perm _
  have hsweep : Registry.sweep t 60 30 2 listed =
      (⟨[(⟨"ahead"⟩, 90, false), (⟨"held"⟩, 5, true)]⟩, 3) := by
    simp [listed, r, t, Registry.sweep, victims, live, evict, without, evictable, survives,
      Instant.since, List.mergeSort, List.MergeSort.Internal.splitInTwo]
  have hcount : (Registry.sweep t 60 30 2 listed).2 = 3 := congrArg Prod.snd hsweep
  have hswept : Swept t 60 30 2 r kept (Registry.sweep t 60 30 2 listed).2 :=
    (sweep_contract hr hl).1
  have hagain : Registry.sweep t 60 30 2 kept = (kept, 0) :=
    (sweep_contract hr hl).2.2 kept (List.Perm.refl _)
  exact ⟨hr, hl, congrArg (·.1.entries) hsweep, hcount ▸ hswept, hagain⟩

end Turnstile.Registry
