import Turnstile.Registry
import Mathlib.Data.List.Nodup
import Mathlib.Data.List.Perm.Basic
/-!
What the operations on a registry do to each of its keys. Setting one key leaves the others alone; a
sweep changes no entry that it keeps, and it keeps every entry that is held.
-/
namespace Turnstile.Registry

variable {α : Type}

def Distinct (r : Registry α) : Prop := (r.entries.map (·.1)).Nodup

variable {r : Registry α} {key other : Key} {value : α}

theorem distinct_empty : (empty : Registry α).Distinct := List.nodup_nil

theorem mem_of_get? (hg : r.get? key = some value) : (key, value) ∈ r.entries := by
  obtain ⟨⟨k, v⟩, hf, hv⟩ := Option.map_eq_some_iff.1 hg
  have hk : k = key := by simpa using List.find?_some hf
  subst hk hv
  exact List.mem_of_find?_eq_some hf

theorem Distinct.eq_of_mem (hr : r.Distinct) {e f : Key × α} (he : e ∈ r.entries)
    (hf : f ∈ r.entries) (hk : e.1 = f.1) : e = f :=
  List.inj_on_of_nodup_map hr he hf hk

theorem Distinct.get?_eq_some (hr : r.Distinct) :
    r.get? key = some value ↔ (key, value) ∈ r.entries := by
  refine ⟨mem_of_get?, fun hm => ?_⟩
  cases hf : r.entries.find? (·.1 == key) with
  | none => exact absurd (beq_self_eq_true key) (List.find?_eq_none.1 hf _ hm)
  | some e =>
    have hk : e.1 = key := by simpa using List.find?_some hf
    have he : e = (key, value) := hr.eq_of_mem (List.mem_of_find?_eq_some hf) hm hk
    rw [get?, hf, he]
    rfl

theorem contains_iff : r.contains key ↔ ∃ value, r.get? key = some value :=
  Option.isSome_iff_exists

theorem keys_insert (r : Registry α) (key : Key) (value : α) :
    (r.insert key value).entries.map (·.1) =
      if r.contains key then r.entries.map (·.1) else r.entries.map (·.1) ++ [key] := by
  unfold insert
  split
  · rw [List.map_map]
    refine List.map_congr_left fun e _ => ?_
    by_cases hk : e.1 = key <;> simp [hk]
  · rw [List.map_append]
    rfl

theorem Distinct.insert (hr : r.Distinct) (key : Key) (value : α) :
    (r.insert key value).Distinct := by
  unfold Distinct
  rw [keys_insert]
  split
  · exact hr
  · next hc =>
    refine List.nodup_append'.2 ⟨hr, List.nodup_singleton key, ?_⟩
    rw [List.disjoint_singleton]
    intro hm
    obtain ⟨⟨k, v⟩, he, rfl⟩ := List.mem_map.1 hm
    exact hc (contains_iff.2 ⟨v, hr.get?_eq_some.2 he⟩)

theorem get?_insert_self (r : Registry α) (key : Key) (value : α) :
    (r.insert key value).get? key = some value := by
  unfold get? insert
  split
  · next hc =>
    obtain ⟨old, ho⟩ := contains_iff.1 hc
    obtain ⟨e, hf, -⟩ := Option.map_eq_some_iff.1 ho
    have hcomp : ((fun e : Key × α => e.1 == key) ∘
        fun e => if e.1 == key then (key, value) else e) = fun e => e.1 == key := by
      funext e
      by_cases hk : e.1 = key <;> simp [hk]
    have hk : e.1 = key := by simpa using List.find?_some hf
    rw [List.find?_map, hcomp, hf]
    simp [hk]
  · next hc =>
    have hf : r.entries.find? (·.1 == key) = none := by
      rw [contains, get?, Option.isSome_map, Bool.not_eq_true, Option.isSome_eq_false_iff,
        Option.isNone_iff_eq_none] at hc
      exact hc
    simp [List.find?_append, hf]

theorem get?_insert_of_ne (r : Registry α) (value : α) (hne : other ≠ key) :
    (r.insert key value).get? other = r.get? other := by
  unfold get? insert
  have hkey : (key == other) = false := by simpa using hne.symm
  split
  · have hcomp : ((fun e : Key × α => e.1 == other) ∘
        fun e => if e.1 == key then (key, value) else e) = fun e => e.1 == other := by
      funext e
      by_cases hk : e.1 = key <;> simp [hk]
    rw [List.find?_map, hcomp, Option.map_map]
    cases hf : r.entries.find? (·.1 == other) with
    | none => rfl
    | some e =>
      have hk : e.1 = other := by simpa using List.find?_some hf
      have hn : e.1 ≠ key := hk ▸ hne
      simp [hn]
  · simp [List.find?_append, hkey]

theorem Distinct.without_eq_append (hr : r.Distinct) {xs ys : List (Key × α)}
    (he : r.entries = xs ++ (key, value) :: ys) : (r.without key).entries = xs ++ ys := by
  have hkeys : (xs.map (·.1) ++ key :: ys.map (·.1)).Nodup := by
    have hr : (r.entries.map (·.1)).Nodup := hr
    rwa [he, List.map_append, List.map_cons] at hr
  have hnew : key ∉ (xs ++ ys).map (·.1) := by
    rw [List.map_append]
    exact (List.nodup_cons.1 (List.nodup_middle.1 hkeys)).1
  rw [without, he, List.filter_append, List.filter_cons_of_neg (by simp), ← List.filter_append]
  refine List.filter_eq_self.2 fun e hm => ?_
  have hk : e.1 ≠ key := fun h => hnew (List.mem_map.2 ⟨e, hm, h⟩)
  simpa using hk

theorem Distinct.without (hr : r.Distinct) (key : Key) : (r.without key).Distinct :=
  hr.sublist (List.filter_sublist.map _)

theorem Distinct.size_without (hr : r.Distinct) {e : Key × α} (he : e ∈ r.entries) :
    (r.without e.1).size + 1 = r.size := by
  obtain ⟨xs, ys, hsplit⟩ := List.append_of_mem he
  rw [size, size, hr.without_eq_append hsplit, hsplit, List.length_append, List.length_append,
    List.length_cons, Nat.add_assoc]

section Evictions

variable {t : Tracking α} {keys : List Key} {removed : Nat}

theorem evict_fst (hfree : ∀ e ∈ r.entries, e.1 = key →
      ∃ f ∈ r.entries, f.1 = key ∧ t.held f.2 = false) :
    (evict t (r, removed) key).1 = r.without key := by
  unfold evict
  split
  · rfl
  · next hn =>
    have hnone : ∀ e ∈ r.entries, e.1 ≠ key := fun e he hk => by
      obtain ⟨f, hf, hfk, hheld⟩ := hfree e he hk
      exact hn (List.any_eq_true.2 ⟨f, hf, by simp [hfk, hheld]⟩)
    exact congrArg Registry.mk (List.filter_eq_self.2 fun e he => by simpa using hnone e he).symm

theorem foldl_evict_fst (hfree : ∀ key ∈ keys, ∀ e ∈ r.entries, e.1 = key →
      ∃ f ∈ r.entries, f.1 = key ∧ t.held f.2 = false) :
    (keys.foldl (evict t) (r, removed)).1 = ⟨r.entries.filter fun e => !keys.contains e.1⟩ := by
  induction keys generalizing r removed with
  | nil => exact congrArg Registry.mk (List.filter_eq_self.2 fun _ _ => rfl).symm
  | cons key keys ih =>
    have hfst : (evict t (r, removed) key).1 = r.without key :=
      evict_fst (hfree key List.mem_cons_self)
    have hrest : ∀ other ∈ keys, ∀ e ∈ (r.without key).entries, e.1 = other →
        ∃ f ∈ (r.without key).entries, f.1 = other ∧ t.held f.2 = false := by
      intro other ho e he hk
      obtain ⟨hm, hne⟩ := List.mem_filter.1 he
      obtain ⟨f, hf, hfk, hheld⟩ := hfree other (List.mem_cons_of_mem key ho) e hm hk
      exact ⟨f, List.mem_filter.2 ⟨hf, by rwa [hfk, ← hk]⟩, hfk, hheld⟩
    rw [← hfst] at hrest
    rw [List.foldl_cons, ih hrest, hfst, without, List.filter_filter]
    refine congrArg Registry.mk (List.filter_congr fun e _ => ?_)
    rw [List.contains_cons, Bool.not_or, Bool.and_comm, bne]

theorem Distinct.evict (hr : r.Distinct) (t : Tracking α) (removed : Nat) (key : Key) :
    (evict t (r, removed) key).1.Distinct ∧
      (evict t (r, removed) key).2 + (evict t (r, removed) key).1.size = removed + r.size := by
  unfold Registry.evict
  split
  · next hany =>
    obtain ⟨e, he, hk⟩ := List.any_eq_true.1 hany
    have hk : e.1 = key := by simpa using (Bool.and_eq_true_iff.1 hk).1
    refine ⟨hr.without key, ?_⟩
    rw [← hr.size_without he, hk, Nat.add_assoc, Nat.add_comm 1]
  · exact ⟨hr, rfl⟩

theorem Distinct.foldl_evict (hr : r.Distinct) :
    (keys.foldl (Registry.evict t) (r, removed)).2 +
      (keys.foldl (Registry.evict t) (r, removed)).1.size = removed + r.size := by
  induction keys generalizing r removed with
  | nil => rfl
  | cons key keys ih =>
    obtain ⟨hd, hcount⟩ := hr.evict t removed key
    exact (ih hd).trans hcount

end Evictions

section Sweep

variable (t : Tracking α) (now : Instant) (idle : Span) (maxKeys : Nat)

theorem evictable_perm (entries : List (Key × α)) :
    (evictable t entries).Perm (entries.filter fun e => !t.held e.2) :=
  List.mergeSort_perm _ _

variable {t now idle maxKeys} in
theorem mem_evictable {e : Key × α} {entries : List (Key × α)} :
    e ∈ evictable t entries ↔ e ∈ entries ∧ t.held e.2 = false := by
  rw [(evictable_perm t entries).mem_iff, List.mem_filter, Bool.not_eq_true']

variable {t now idle maxKeys} in
theorem mem_of_mem_victims {e : Key × α} (hv : e ∈ victims t now idle maxKeys r) :
    e ∈ live t now idle r ∧ t.held e.2 = false :=
  mem_evictable.1 (List.mem_of_mem_take hv)

theorem sweep_fst (r : Registry α) :
    (Registry.sweep t now idle maxKeys r).1 = ⟨(live t now idle r).filter fun e =>
      !((victims t now idle maxKeys r).map (·.1)).contains e.1⟩ := by
  refine foldl_evict_fst fun key hk e _ _ => ?_
  obtain ⟨f, hf, hfk⟩ := List.mem_map.1 hk
  exact ⟨f, (mem_of_mem_victims hf).1, hfk, (mem_of_mem_victims hf).2⟩

theorem sweep_sublist (r : Registry α) :
    (Registry.sweep t now idle maxKeys r).1.entries.Sublist r.entries := by
  rw [sweep_fst]
  exact List.filter_sublist.trans List.filter_sublist

theorem Distinct.sweep (hr : r.Distinct) : (Registry.sweep t now idle maxKeys r).1.Distinct :=
  hr.sublist ((sweep_sublist t now idle maxKeys r).map _)

/-- What a sweep counts is what it has evicted. -/
theorem Distinct.sweep_snd (hr : r.Distinct) :
    (Registry.sweep t now idle maxKeys r).2 + (Registry.sweep t now idle maxKeys r).1.size =
      r.size := by
  have hlive : (Registry.mk (live t now idle r)).Distinct := hr.sublist (List.filter_sublist.map _)
  refine hlive.foldl_evict.trans ?_
  rw [size, live, ← List.countP_eq_length_filter, Nat.add_comm, size,
    List.length_eq_countP_add_countP (survives t now idle)]
  simp only [Bool.not_eq_true, Bool.decide_eq_false]

theorem Distinct.get?_of_sweep (hr : r.Distinct)
    (hg : (Registry.sweep t now idle maxKeys r).1.get? key = some value) : r.get? key = some value :=
  hr.get?_eq_some.2 ((sweep_sublist t now idle maxKeys r).subset (mem_of_get? hg))

theorem Distinct.get?_sweep_of_held (hr : r.Distinct) (hg : r.get? key = some value)
    (hh : t.held value) : (Registry.sweep t now idle maxKeys r).1.get? key = some value := by
  have hm : (key, value) ∈ r.entries := mem_of_get? hg
  have hlive : (key, value) ∈ live t now idle r := List.mem_filter.2 ⟨hm, by simp [survives, hh]⟩
  refine (hr.sweep t now idle maxKeys).get?_eq_some.2 ?_
  rw [sweep_fst]
  refine List.mem_filter.2 ⟨hlive, ?_⟩
  rw [Bool.not_eq_true', List.contains_eq_mem, decide_eq_false_iff_not]
  intro hv
  -- A victim of this key would be the held entry itself, but victims are not held.
  obtain ⟨e, he, hk⟩ := List.mem_map.1 hv
  obtain ⟨hel, hen⟩ := mem_of_mem_victims he
  have heq : e = (key, value) := hr.eq_of_mem (List.mem_of_mem_filter hel) hm hk
  rw [heq, hh] at hen
  exact Bool.noConfusion hen

/-- A sweep at `now` evicts no key for room. -/
def Roomy (r : Registry α) : Prop := (r.entries.filter (survives t now idle)).length ≤ maxKeys

instance (r : Registry α) : Decidable (Roomy t now idle maxKeys r) :=
  inferInstanceAs (Decidable (_ ≤ _))

variable {t now idle maxKeys}

theorem Roomy.sweep (hroom : Roomy t now idle maxKeys r) :
    Roomy t now idle maxKeys (Registry.sweep t now idle maxKeys r).1 :=
  Nat.le_trans ((sweep_sublist t now idle maxKeys r).filter _).length_le hroom

/-- Where there is room, a sweep treats a key by its own entry alone. -/
theorem Distinct.get?_sweep (hr : r.Distinct) (hroom : Roomy t now idle maxKeys r) (key : Key) :
    (Registry.sweep t now idle maxKeys r).1.get? key =
      (r.get? key).filter fun value => survives t now idle (key, value) := by
  have hvictims : (r.entries.filter (survives t now idle)).length - maxKeys = 0 :=
    Nat.sub_eq_zero_of_le hroom
  apply Option.ext
  intro value
  rw [(hr.sweep t now idle maxKeys).get?_eq_some, Option.filter_eq_some_iff, hr.get?_eq_some]
  simp [sweep_fst, victims, live, hvictims]

end Sweep

end Turnstile.Registry
