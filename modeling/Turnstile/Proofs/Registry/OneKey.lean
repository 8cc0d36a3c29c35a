import Turnstile.Proofs.Registry.Sweep
/-!
Registries that differ in one key. What is done to another key does not see it; a sweep sees it only as
one more entry in the order of last accesses.
-/
namespace Turnstile

section Sorting

variable {α : Type*} {le : α → α → Bool}

theorem cut_eq_of_append_eq {p : α → Bool} {xs ys us vs : List α} (h : xs ++ ys = us ++ vs)
    (hxs : ∀ x ∈ xs, p x = true) (hys : ∀ y ∈ ys, p y = false) (hus : ∀ u ∈ us, p u = true)
    (hvs : ∀ v ∈ vs, p v = false) : xs = us ∧ ys = vs := by
  have hfront (as bs : List α) (ha : ∀ a ∈ as, p a = true) (hb : ∀ b ∈ bs, p b = false) :
      (as ++ bs).filter p = as := by
    have hbs : bs.filter p = [] := List.filter_eq_nil_iff.2 fun b hm => by simp [hb b hm]
    rw [List.filter_append, List.filter_eq_self.2 ha, hbs, List.append_nil]
  have hxu : xs = us := by rw [← hfront xs ys hxs hys, h, hfront us vs hus hvs]
  subst hxu
  exact ⟨rfl, List.append_cancel_left h⟩

theorem mem_take_of_pair_sublist {l : List α} {a b : α} {n : ℕ} (hl : l.Nodup)
    (h : [a, b].Sublist l) (hb : b ∈ l.take n) : a ∈ l.take n := by
  rw [← List.take_append_drop n l] at h hl
  obtain ⟨front, back, hsplit, hfront, hback⟩ := List.sublist_append_iff.1 h
  cases front with
  | nil =>
    have hlate : b ∈ l.drop n := hback.subset (List.nil_append back ▸ hsplit ▸ by simp)
    exact absurd hlate (List.disjoint_of_nodup_append hl hb)
  | cons c front =>
    obtain ⟨rfl, -⟩ := List.cons.inj hsplit
    exact hfront.subset List.mem_cons_self

variable (htrans : ∀ a b c, le a b = true → le b c = true → le a c = true)
  (htotal : ∀ a b, (le a b || le b a) = true)
include htrans htotal

theorem mergeSort_cons_cut (a : α) (l : List α) :
    ∃ front back, (a :: l).mergeSort le = front ++ a :: back ∧ l.mergeSort le = front ++ back ∧
      (∀ b ∈ front, (!le a b) = true) ∧ ∀ b ∈ back, (!le a b) = false := by
  obtain ⟨front, back, hsort, hl, hfront⟩ := List.mergeSort_cons htrans htotal a l
  have hsorted := List.pairwise_mergeSort htrans htotal (a :: l)
  rw [hsort] at hsorted
  have hback := (List.pairwise_cons.1 (List.pairwise_append.1 hsorted).2.1).1
  exact ⟨front, back, hsort, hl, hfront, fun b hb => by simp [hback b hb]⟩

/-- To sort and then to choose is to choose and then to sort, ties included. -/
theorem filter_mergeSort (p : α → Bool) (l : List α) :
    (l.mergeSort le).filter p = (l.filter p).mergeSort le := by
  induction l with
  | nil => simp
  | cons a l ih =>
    obtain ⟨front, back, hsort, hl, hfront, hback⟩ := mergeSort_cons_cut htrans htotal a l
    cases hp : p a with
    | false =>
      have hn : ¬p a = true := Bool.eq_false_iff.1 hp
      rw [List.filter_cons_of_neg hn, ← ih, hsort, hl, List.filter_append,
        List.filter_cons_of_neg hn, List.filter_append]
    | true =>
      obtain ⟨front', back', hsort', hl', hfront', hback'⟩ :=
        mergeSort_cons_cut htrans htotal a (l.filter p)
      have hparts : front' ++ back' = front.filter p ++ back.filter p := by
        rw [← hl', ← ih, hl, List.filter_append]
      -- In both lists what is less than `a` stands before it.
      obtain ⟨rfl, rfl⟩ := cut_eq_of_append_eq hparts hfront' hback'
        (fun b hb => hfront b (List.mem_of_mem_filter hb))
        (fun b hb => hback b (List.mem_of_mem_filter hb))
      rw [List.filter_cons_of_pos hp, hsort, hsort', List.filter_append,
        List.filter_cons_of_pos hp]

theorem mergeSort_first {a : α} {xs ys : List α} (hxs : ∀ x ∈ xs, le x a = false)
    (hys : ∀ y ∈ ys, le a y = true) :
    (xs ++ a :: ys).mergeSort le = a :: (xs ++ ys).mergeSort le := by
  induction xs with
  | nil =>
    obtain ⟨front, back, hsort, hl, hfront, -⟩ := mergeSort_cons_cut htrans htotal a ys
    have hnone : front = [] := by
      refine List.eq_nil_iff_forall_not_mem.2 fun b hb => ?_
      have hm : b ∈ ys.mergeSort le := hl ▸ List.mem_append_left back hb
      simpa [hys b (List.mem_mergeSort.1 hm)] using hfront b hb
    rw [List.nil_append, List.nil_append, hsort, hl, hnone]
    rfl
  | cons x xs ih =>
    obtain ⟨hx, hxs⟩ := List.forall_mem_cons.1 hxs
    obtain ⟨front, back, hsort, hl, hfront, hback⟩ :=
      mergeSort_cons_cut htrans htotal x (xs ++ a :: ys)
    obtain ⟨front', back', hsort', hl', hfront', hback'⟩ :=
      mergeSort_cons_cut htrans htotal x (xs ++ ys)
    have hparts : front ++ back = (a :: front') ++ back' := by
      rw [← hl, ih hxs, hl', List.cons_append]
    obtain ⟨rfl, rfl⟩ := cut_eq_of_append_eq hparts hfront hback
      (List.forall_mem_cons.2 ⟨by simp [hx], hfront'⟩) hback'
    rw [List.cons_append, List.cons_append, hsort, hsort', List.cons_append]

end Sorting

namespace Registry

variable {α : Type} {r r' : Registry α} {key other : Key} {value : α}

theorem get?_eq_none : r.get? key = none ↔ ∀ e ∈ r.entries, e.1 ≠ key := by
  simp [get?]

theorem get?_without_of_ne (r : Registry α) (hne : other ≠ key) :
    (r.without key).get? other = r.get? other := by
  have hsame : (fun e : Key × α => decide ((e.1 != key) = true ∧ (e.1 == other) = true)) =
      fun e => e.1 == other := by
    funext e
    by_cases he : e.1 = other <;> simp [he, hne]
  unfold get? without
  rw [List.find?_filter, hsame]

theorem without_eq_self (hg : r.get? key = none) : r.without key = r :=
  congrArg Registry.mk (List.filter_eq_self.2 fun e he => by simpa using get?_eq_none.1 hg e he)

theorem get?_without_self (r : Registry α) (key : Key) : (r.without key).get? key = none :=
  get?_eq_none.2 fun e he => by simpa using (List.mem_filter.1 he).2

theorem without_insert_self (r : Registry α) (key : Key) (value : α) :
    (r.insert key value).without key = r.without key := by
  have hkeys : (fun e : Key × α => e.1 != key) ∘
      (fun e => if e.1 == key then (key, value) else e) = fun e => e.1 != key := by
    funext e
    by_cases hk : e.1 = key <;> simp [hk]
  unfold insert without
  split
  · rw [List.filter_map, hkeys]
    have hself : ∀ e ∈ r.entries.filter fun e => e.1 != key,
        (if e.1 == key then (key, value) else e) = e := by
      intro e he
      have hk : e.1 ≠ key := by simpa using (List.mem_filter.1 he).2
      simp [hk]
    exact congrArg Registry.mk ((List.map_congr_left hself).trans (List.map_id _))
  · simp

theorem without_insert_of_ne (r : Registry α) (value : α) (hne : other ≠ key) :
    (r.insert other value).without key = (r.without key).insert other value := by
  have hc : (r.without key).contains other = r.contains other := by
    rw [contains, contains, get?_without_of_ne r hne]
  have hkeys : (fun e : Key × α => e.1 != key) ∘
      (fun e => if e.1 == other then (other, value) else e) = fun e => e.1 != key := by
    funext e
    by_cases hk : e.1 = other <;> simp [hk]
  unfold insert
  rw [hc]
  split
  · rw [without, List.filter_map, hkeys]
    rfl
  · rw [without, List.filter_append, List.filter_cons_of_pos (by simpa using hne), List.filter_nil]
    rfl

def put (r : Registry α) (key : Key) (value : Option α) : Registry α :=
  value.elim r (r.insert key)

section Put

variable (r) (key) (new : Option α)

theorem without_put_self : (r.put key new).without key = r.without key := by
  cases new with
  | none => rfl
  | some value => exact without_insert_self r key value

theorem without_put_of_ne (hne : other ≠ key) :
    (r.put other new).without key = (r.without key).put other new := by
  cases new with
  | none => rfl
  | some value => exact without_insert_of_ne r value hne

theorem get?_put_self : (r.put key new).get? key = new.or (r.get? key) := by
  cases new with
  | none => rfl
  | some value => exact get?_insert_self r key value

theorem get?_put_of_ne (hne : other ≠ key) : (r.put key new).get? other = r.get? other := by
  cases new with
  | none => rfl
  | some value => exact get?_insert_of_ne r value hne

variable {r key new}

theorem Distinct.put (hr : r.Distinct) (key : Key) (new : Option α) : (r.put key new).Distinct := by
  cases new with
  | none => exact hr
  | some value => exact hr.insert key value

theorem mem_put {e : Key × α} (he : e ∈ (r.put key new).entries) :
    e ∈ r.entries ∨ e.1 = key ∧ new = some e.2 := by
  cases new with
  | none => exact .inl he
  | some value =>
    change e ∈ (r.insert key value).entries at he
    unfold insert at he
    split at he
    · obtain ⟨f, hf, rfl⟩ := List.mem_map.1 he
      split
      · exact .inr ⟨rfl, rfl⟩
      · exact .inl hf
    · refine (List.mem_append.1 he).imp_right fun he => ?_
      rw [List.mem_singleton.1 he]
      exact ⟨rfl, rfl⟩

end Put

theorem Distinct.split (hr : r.Distinct) (hg : r.get? key = some value) :
    ∃ xs ys, r.entries = xs ++ (key, value) :: ys ∧ (r.without key).entries = xs ++ ys := by
  obtain ⟨xs, ys, he⟩ := List.append_of_mem (mem_of_get? hg)
  exact ⟨xs, ys, he, hr.without_eq_append he⟩

theorem Distinct.perm_of_agree (hr : r.Distinct) (hr' : r'.Distinct)
    (hw : r.without key = r'.without key) (hg : r.get? key = r'.get? key) :
    r.entries.Perm r'.entries := by
  cases hv : r.get? key with
  | none =>
    have hrr : r = r' := (without_eq_self hv).symm.trans (hw.trans (without_eq_self (hg ▸ hv)))
    rw [hrr]
  | some value =>
    obtain ⟨xs, ys, he, ho⟩ := hr.split hv
    obtain ⟨xs', ys', he', ho'⟩ := hr'.split (hg ▸ hv)
    have hsame : xs ++ ys = xs' ++ ys' := ho.symm.trans ((congrArg entries hw).trans ho')
    rw [he, he']
    have hmove : ((key, value) :: (xs ++ ys)).Perm (xs' ++ (key, value) :: ys') :=
      hsame ▸ List.perm_middle.symm
    exact List.perm_middle.trans hmove

section Sweep

variable {t : Tracking α} {now : Instant} {idle : Span} {maxKeys : Nat}

theorem filter_evictable (p : Key × α → Bool) (entries : List (Key × α)) :
    (evictable t entries).filter p = evictable t (entries.filter p) := by
  unfold evictable
  rw [filter_mergeSort lastAccess_le_trans lastAccess_le_total, List.filter_comm]

theorem live_without (r : Registry α) (key : Key) :
    live t now idle (r.without key) = (live t now idle r).filter fun e => e.1 != key :=
  List.filter_comm _ _ _

theorem sweep_without (r : Registry α) (key : Key) :
    (Registry.sweep t now idle maxKeys r).1.without key =
      ⟨(live t now idle (r.without key)).filter fun e =>
        !((victims t now idle maxKeys r).map (·.1)).contains e.1⟩ := by
  rw [sweep_fst, without, live_without, List.filter_comm]

theorem Distinct.get?_sweep_eq_some (hr : r.Distinct) :
    (Registry.sweep t now idle maxKeys r).1.get? key = some value ↔
      r.get? key = some value ∧ survives t now idle (key, value) = true ∧
        (key, value) ∉ victims t now idle maxKeys r := by
  rw [(hr.sweep t now idle maxKeys).get?_eq_some, hr.mem_sweep, mem_live, hr.get?_eq_some,
    and_assoc]

theorem get?_sweep_eq_none (hg : r.get? key = none) :
    (Registry.sweep t now idle maxKeys r).1.get? key = none :=
  get?_eq_none.2 fun e he =>
    get?_eq_none.1 hg e ((sweep_sublist t now idle maxKeys r).subset he)

theorem live_without_of_dead (hr : r.Distinct) (hg : r.get? key = some value)
    (hdead : survives t now idle (key, value) = false) :
    live t now idle (r.without key) = live t now idle r := by
  rw [live_without]
  refine List.filter_eq_self.2 fun e he => ?_
  have hk : e.1 ≠ key := by
    intro hk
    obtain ⟨hm, hs⟩ := mem_live.1 he
    have heq : e = (key, value) := hr.eq_of_mem hm (mem_of_get? hg) hk
    exact Bool.noConfusion (hs.symm.trans (heq ▸ hdead))
  simpa using hk

/-- A sweep evicts nothing for room, or no other key was used last at the same instant as this one. -/
def Untied (t : Tracking α) (now : Instant) (idle : Span) (maxKeys : Nat) (key : Key)
    (r : Registry α) : Prop :=
  Roomy t now idle maxKeys r ∨ ∀ value, r.get? key = some value →
    ∀ e ∈ live t now idle r, e.1 ≠ key → t.lastAccess e.2 ≠ t.lastAccess value

instance (r : Registry α) : Decidable (Untied t now idle maxKeys key r) :=
  inferInstanceAs (Decidable (_ ∨ ∀ value ∈ r.get? key,
    ∀ e ∈ live t now idle r, e.1 ≠ key → t.lastAccess e.2 ≠ t.lastAccess value))

/-- No other key stands to be evicted before this one. -/
def Oldest (t : Tracking α) (key : Key) (value : α) (r : Registry α) : Prop :=
  ∃ xs ys, r.entries = xs ++ (key, value) :: ys ∧
    (∀ e ∈ xs, t.lastAccess value < t.lastAccess e.2) ∧
    ∀ e ∈ ys, t.lastAccess value ≤ t.lastAccess e.2

theorem Oldest.filter {p : Key × α → Bool} (ho : Oldest t key value r)
    (hp : p (key, value) = true) : Oldest t key value ⟨r.entries.filter p⟩ := by
  obtain ⟨xs, ys, he, hxs, hys⟩ := ho
  refine ⟨xs.filter p, ys.filter p, ?_, fun e hm => hxs e (List.mem_of_mem_filter hm),
    fun e hm => hys e (List.mem_of_mem_filter hm)⟩
  rw [he, List.filter_append, List.filter_cons_of_pos hp]

theorem Oldest.le (ho : Oldest t key value r) {e : Key × α} (he : e ∈ r.entries) :
    t.lastAccess value ≤ t.lastAccess e.2 := by
  obtain ⟨xs, ys, hsplit, hxs, hys⟩ := ho
  rw [hsplit] at he
  rcases List.mem_append.1 he with hm | hm
  · exact Nat.le_of_lt (hxs e hm)
  · rcases List.mem_cons.1 hm with rfl | hm
    · exact Nat.le_refl _
    · exact hys e hm

theorem Oldest.map {f : Key × α → Key × α} (ho : Oldest t key value r)
    (hself : f (key, value) = (key, value))
    (hlater : ∀ e ∈ r.entries, t.lastAccess e.2 ≤ t.lastAccess (f e).2) :
    Oldest t key value ⟨r.entries.map f⟩ := by
  obtain ⟨xs, ys, he, hxs, hys⟩ := ho
  refine ⟨xs.map f, ys.map f, ?_, List.forall_mem_map.2 fun e hm => ?_,
    List.forall_mem_map.2 fun e hm => ?_⟩
  · rw [he, List.map_append, List.map_cons, hself]
  · exact Nat.lt_of_lt_of_le (hxs e hm) (hlater e (by simp [he, hm]))
  · exact Nat.le_trans (hys e hm) (hlater e (by simp [he, hm]))

theorem Oldest.insert (ho : Oldest t key value r) (hne : other ≠ key) {new : α}
    (hlater : ∀ e ∈ r.entries, e.1 = other → t.lastAccess e.2 ≤ t.lastAccess new)
    (hnew : t.lastAccess value ≤ t.lastAccess new) : Oldest t key value (r.insert other new) := by
  unfold Registry.insert
  split
  · refine ho.map (if_neg (by simpa using hne.symm)) fun e hm => ?_
    by_cases hk : e.1 = other
    · rw [if_pos (by simpa using hk)]
      exact hlater e hm hk
    · exact Nat.le_of_eq (congrArg (fun e : Key × α => t.lastAccess e.2)
        (if_neg (by simpa using hk)).symm)
  · obtain ⟨xs, ys, he, hxs, hys⟩ := ho
    refine ⟨xs, ys ++ [(other, new)], by simp [he], hxs, fun e hm => ?_⟩
    rcases List.mem_append.1 hm with hm | hm
    · exact hys e hm
    · rw [List.mem_singleton.1 hm]
      exact hnew

theorem Oldest.put (ho : Oldest t key value r) (hne : other ≠ key) {new : Option α}
    (hlater : ∀ v, new = some v → t.lastAccess value ≤ t.lastAccess v ∧
      ∀ e ∈ r.entries, e.1 = other → t.lastAccess e.2 ≤ t.lastAccess v) :
    Oldest t key value (r.put other new) := by
  cases new with
  | none => exact ho
  | some v => exact ho.insert hne (hlater v rfl).2 (hlater v rfl).1

theorem Oldest.get? (hr : r.Distinct) (ho : Oldest t key value r) : r.get? key = some value := by
  obtain ⟨xs, ys, he, -⟩ := ho
  exact hr.get?_eq_some.2 (by simp [he])

theorem Oldest.sweep (hr : r.Distinct) (ho : Oldest t key value r) :
    (Registry.sweep t now idle maxKeys r).1.get? key = none ∨
      Oldest t key value (Registry.sweep t now idle maxKeys r).1 := by
  rw [sweep_fst]
  cases hs : survives t now idle (key, value) &&
      !((victims t now idle maxKeys r).map (·.1)).contains key with
  | true =>
    obtain ⟨halive, hkept⟩ := Bool.and_eq_true_iff.1 hs
    exact .inr ((ho.filter (r := r) halive).filter hkept)
  | false =>
    refine .inl (get?_eq_none.2 fun e he hk => ?_)
    obtain ⟨hlive, hkept⟩ := List.mem_filter.1 he
    obtain ⟨hm, halive⟩ := mem_live.1 hlive
    have heq : e = (key, value) := hr.eq_of_mem hm (mem_of_get? (ho.get? hr)) hk
    subst heq
    exact Bool.noConfusion (hs.symm.trans (Bool.and_eq_true_iff.2 ⟨halive, hkept⟩))

/-- What a sweep leaves if it passes over one key. -/
def sweepSparing (t : Tracking α) (now : Instant) (idle : Span) (maxKeys : Nat) (key : Key)
    (r : Registry α) : Registry α :=
  ⟨r.entries.filter fun e =>
    e.1 == key || (Registry.sweep t now idle maxKeys r).1.contains e.1⟩

variable (hfree : ∀ value, t.held value = false)
include hfree

theorem Distinct.evictable_split (hr : r.Distinct) (hg : r.get? key = some value)
    (halive : survives t now idle (key, value) = true) :
    ∃ xs ys, evictable t (live t now idle r) = xs ++ (key, value) :: ys ∧
      evictable t (live t now idle (r.without key)) = xs ++ ys ∧
      (∀ e ∈ xs, t.lastAccess e.2 ≤ t.lastAccess value) ∧
      ∀ e ∈ ys, t.lastAccess value ≤ t.lastAccess e.2 := by
  let sorted : Registry α := ⟨evictable t (live t now idle r)⟩
  have hsorted : sorted.Distinct :=
    ((evictable_perm t _).map _).nodup_iff.2
      (hr.sublist ((List.filter_sublist.trans List.filter_sublist).map _))
  have hmem : (key, value) ∈ sorted.entries :=
    mem_evictable.2 ⟨mem_live.2 ⟨mem_of_get? hg, halive⟩, hfree value⟩
  obtain ⟨xs, ys, he, ho⟩ := hsorted.split (hsorted.get?_eq_some.2 hmem)
  have hothers : (sorted.without key).entries = evictable t (live t now idle (r.without key)) := by
    rw [live_without, ← filter_evictable]
    rfl
  have hpairs := pairwise_evictable (t := t) (live t now idle r)
  have he' : evictable t (live t now idle r) = xs ++ (key, value) :: ys := he
  rw [he', List.pairwise_append, List.pairwise_cons] at hpairs
  exact ⟨xs, ys, he, hothers.symm.trans ho,
    fun e hm => hpairs.2.2 e hm (key, value) List.mem_cons_self, hpairs.2.1.1⟩

theorem evictable_congr (hr : r.Distinct) (hr' : r'.Distinct)
    (hw : r.without key = r'.without key) (hg : r.get? key = some value)
    (hg' : r'.get? key = some value) (halive : survives t now idle (key, value) = true)
    (huntied : ∀ e ∈ live t now idle r, e.1 ≠ key → t.lastAccess e.2 ≠ t.lastAccess value) :
    evictable t (live t now idle r) = evictable t (live t now idle r') := by
  obtain ⟨xs, ys, he, ho, hxs, hys⟩ := hr.evictable_split hfree hg halive
  obtain ⟨us, vs, he', ho', hus, hvs⟩ := hr'.evictable_split hfree hg' halive
  have hparts : xs ++ ys = us ++ vs := ho.symm.trans (hw ▸ ho')
  have hother : ∀ e ∈ xs ++ ys, t.lastAccess e.2 ≠ t.lastAccess value := by
    intro e hm
    rw [← ho, live_without] at hm
    obtain ⟨hlive, hk⟩ := List.mem_filter.1 (mem_evictable.1 hm).1
    exact huntied e hlive (by simpa using hk)
  have hbefore : ∀ e ∈ xs ++ ys, t.lastAccess e.2 ≤ t.lastAccess value →
      decide (t.lastAccess e.2 < t.lastAccess value) = true := fun e hm hle =>
    decide_eq_true (Nat.lt_of_le_of_ne hle (hother e hm))
  have hafter : ∀ e : Key × α, t.lastAccess value ≤ t.lastAccess e.2 →
      decide (t.lastAccess e.2 < t.lastAccess value) = false := fun e hle =>
    decide_eq_false (Nat.not_lt.2 hle)
  obtain ⟨rfl, rfl⟩ := cut_eq_of_append_eq hparts
    (fun e hm => hbefore e (List.mem_append_left _ hm) (hxs e hm)) (fun e hm => hafter e (hys e hm))
    (fun e hm => hbefore e (hparts ▸ List.mem_append_left _ hm) (hus e hm))
    (fun e hm => hafter e (hvs e hm))
  rw [he, he']

theorem victims_congr (hr : r.Distinct) (hr' : r'.Distinct)
    (hw : r.without key = r'.without key) (hg : r.get? key = r'.get? key)
    (hu : Untied t now idle maxKeys key r) :
    victims t now idle maxKeys r = victims t now idle maxKeys r' := by
  have hlength : (live t now idle r).length = (live t now idle r').length :=
    ((hr.perm_of_agree hr' hw hg).filter _).length_eq
  cases hv : r.get? key with
  | none =>
    have hrr : r = r' := (without_eq_self hv).symm.trans (hw.trans (without_eq_self (hg ▸ hv)))
    rw [hrr]
  | some value =>
    unfold victims
    rw [← hlength]
    rcases hu with hroom | huntied
    · have hroom : (live t now idle r).length - maxKeys = 0 := Nat.sub_eq_zero_of_le hroom
      rw [hroom, List.take_zero, List.take_zero]
    · cases halive : survives t now idle (key, value) with
      | true => rw [evictable_congr hfree hr hr' hw hv (hg ▸ hv) halive (huntied value hv)]
      | false =>
        rw [← live_without_of_dead hr hv halive, hw, live_without_of_dead hr' (hg ▸ hv) halive]

/-- A sweep that knows the place of a key does to two registries the same that agree but for places. -/
theorem sweep_agree (hr : r.Distinct) (hr' : r'.Distinct) (hw : r.without key = r'.without key)
    (hg : r.get? key = r'.get? key) (hu : Untied t now idle maxKeys key r) :
    (Registry.sweep t now idle maxKeys r).1.without key =
        (Registry.sweep t now idle maxKeys r').1.without key ∧
      (Registry.sweep t now idle maxKeys r).1.get? key =
        (Registry.sweep t now idle maxKeys r').1.get? key := by
  have hv := victims_congr hfree hr hr' hw hg hu
  refine ⟨?_, Option.ext fun value => ?_⟩
  · rw [sweep_without, sweep_without, hw, hv]
  · rw [hr.get?_sweep_eq_some, hr'.get?_sweep_eq_some, hg, hv]

theorem length_evictable (entries : List (Key × α)) :
    (evictable t entries).length = entries.length := by
  rw [(evictable_perm t entries).length_eq, List.filter_eq_self.2 fun e _ => by simp [hfree e.2]]

theorem Oldest.evictable (hr : r.Distinct) (ho : Oldest t key value r) :
    evictable t r.entries = (key, value) :: evictable t (r.without key).entries := by
  obtain ⟨xs, ys, he, hxs, hys⟩ := ho
  have hall (entries : List (Key × α)) : entries.filter (fun e => !t.held e.2) = entries :=
    List.filter_eq_self.2 fun e _ => by simp [hfree e.2]
  unfold Registry.evictable
  rw [hall, hall, he, hr.without_eq_append he]
  exact mergeSort_first lastAccess_le_trans lastAccess_le_total
    (fun e hm => decide_eq_false (Nat.not_le.2 (hxs e hm))) (fun e hm => decide_eq_true (hys e hm))

/-- A sweep takes the oldest key first, and so it does to the others what it does without that key. -/
theorem Oldest.sweep_without (hr : r.Distinct) (ho : Oldest t key value r) :
    (Registry.sweep t now idle maxKeys r).1.without key =
      (Registry.sweep t now idle maxKeys (r.without key)).1 := by
  have hg : r.get? key = some value := ho.get? hr
  rw [Registry.sweep_without, sweep_fst]
  cases halive : survives t now idle (key, value) with
  | false =>
    have hlive := live_without_of_dead hr hg halive
    rw [victims, hlive, victims, hlive]
  | true =>
    have hlive : Registry.Distinct ⟨live t now idle r⟩ := hr.sublist (List.filter_sublist.map _)
    have hsorted : Registry.evictable t (live t now idle r) =
        (key, value) :: Registry.evictable t (live t now idle (r.without key)) := by
      rw [live_without]
      exact Oldest.evictable hfree hlive (ho.filter halive)
    have hlength : (live t now idle r).length = (live t now idle (r.without key)).length + 1 := by
      rw [← length_evictable hfree, hsorted, List.length_cons, length_evictable hfree]
    -- The key stands first in the order: if one more entry has to go, it is the entry of the key.
    have hvictims : victims t now idle maxKeys r = victims t now idle maxKeys (r.without key) ∨
        victims t now idle maxKeys r =
          (key, value) :: victims t now idle maxKeys (r.without key) := by
      unfold victims
      rw [hsorted, hlength]
      by_cases hover : maxKeys ≤ (live t now idle (r.without key)).length
      · rw [Nat.succ_sub hover]
        exact .inr rfl
      · rw [show _ + 1 - maxKeys = 0 by omega, show _ - maxKeys = 0 by omega]
        exact .inl rfl
    refine congrArg Registry.mk (List.filter_congr fun e he => ?_)
    have hk : e.1 ≠ key := get?_eq_none.1 (get?_without_self r key) e (mem_live.1 he).1
    rcases hvictims with hv | hv
    · rw [hv]
    · rw [hv, List.map_cons, List.contains_cons, beq_eq_false_iff_ne.2 hk, Bool.false_or]

theorem Distinct.lastAccess_of_evicted (hr : r.Distinct) {e f : Key × α} (he : e ∈ r.entries)
    (hgone : e ∉ (Registry.sweep t now idle maxKeys r).1.entries)
    (hf : f ∈ (Registry.sweep t now idle maxKeys r).1.entries) :
    t.lastAccess e.2 ≤ t.lastAccess f.2 ∧
      ([f, e].Sublist r.entries → t.lastAccess e.2 < t.lastAccess f.2) := by
  obtain ⟨hlive, hkept⟩ := hr.mem_sweep.1 hf
  cases halive : survives t now idle e with
  | false =>
    have hidle : ¬now.since (t.lastAccess e.2) < idle := fun h =>
      Bool.noConfusion (halive.symm.trans (survives_iff.2 (.inr h)))
    have hlater : now.since (t.lastAccess f.2) < idle :=
      (survives_iff.1 (mem_live.1 hlive).2).resolve_left (by simp [hfree f.2])
    have hlt : t.lastAccess e.2 < t.lastAccess f.2 := by
      have hspan : ∀ past later now idle : Nat,
          ¬now - past < idle → now - later < idle → past < later := by omega
      exact hspan _ _ _ _ hidle hlater
    exact ⟨Nat.le_of_lt hlt, fun _ => hlt⟩
  | true =>
    have hv : e ∈ victims t now idle maxKeys r := by
      by_contra hn
      exact hgone (hr.mem_sweep.2 ⟨mem_live.2 ⟨he, halive⟩, hn⟩)
    refine ⟨lastAccess_le_of_victim hv hlive (hfree f.2) hkept, fun hpair => ?_⟩
    by_contra hle
    -- At equal instants the one in front would have gone first.
    have hfront : [f, e].Sublist (evictable t (live t now idle r)) := by
      refine List.pair_sublist_mergeSort lastAccess_le_trans lastAccess_le_total
        (decide_eq_true (Nat.not_lt.1 hle)) ?_
      have hall := (hpair.filter (survives t now idle)).filter fun e => !t.held e.2
      rw [List.filter_cons_of_pos (mem_live.1 hlive).2, List.filter_cons_of_pos halive,
        List.filter_nil, List.filter_eq_self.2 fun e _ => by simp [hfree e.2]] at hall
      exact hall
    have hnodup : (evictable t (live t now idle r)).Nodup :=
      (evictable_perm t _).nodup_iff.2 (hr.nodup_live.filter _)
    exact hkept (mem_take_of_pair_sublist hnodup hfront hv)

theorem Distinct.oldest_of_evicted (hr : r.Distinct) (hg : r.get? key = some value)
    (hgone : (Registry.sweep t now idle maxKeys r).1.get? key = none) :
    Oldest t key value (sweepSparing t now idle maxKeys key r) := by
  let keeps : Key × α → Bool := fun e =>
    e.1 == key || (Registry.sweep t now idle maxKeys r).1.contains e.1
  obtain ⟨xs, ys, he, ho⟩ := hr.split hg
  have hevicted : (key, value) ∉ (Registry.sweep t now idle maxKeys r).1.entries :=
    fun hm => get?_eq_none.1 hgone _ hm rfl
  have hkept : ∀ e ∈ xs ++ ys, keeps e = true →
      e ∈ (Registry.sweep t now idle maxKeys r).1.entries := by
    intro e hm hp
    obtain ⟨hm, hk⟩ := List.mem_filter.1 (ho ▸ hm)
    have hc : (Registry.sweep t now idle maxKeys r).1.contains e.1 = true :=
      (Bool.or_eq_true_iff.1 hp).resolve_left (by simpa using hk)
    exact (hr.contains_iff_mem (hr.sweep t now idle maxKeys)
      (sweep_sublist t now idle maxKeys r).subset hm).1 hc
  have hsplit : (sweepSparing t now idle maxKeys key r).entries =
      xs.filter keeps ++ (key, value) :: ys.filter keeps := by
    rw [sweepSparing, he, List.filter_append, List.filter_cons_of_pos (by simp)]
  refine ⟨xs.filter keeps, ys.filter keeps, hsplit, fun e hm => ?_, fun e hm => ?_⟩
  · obtain ⟨hm, hp⟩ := List.mem_filter.1 hm
    have hpair : [e, (key, value)].Sublist r.entries := by
      rw [he]
      exact (List.singleton_sublist.2 hm).append (List.singleton_sublist.2 List.mem_cons_self)
    exact (hr.lastAccess_of_evicted hfree (mem_of_get? hg) hevicted
      (hkept e (List.mem_append_left _ hm) hp)).2 hpair
  · obtain ⟨hm, hp⟩ := List.mem_filter.1 hm
    exact (hr.lastAccess_of_evicted hfree (mem_of_get? hg) hevicted
      (hkept e (List.mem_append_right _ hm) hp)).1

omit hfree in
theorem Distinct.filter_contains_sweep (hr : r.Distinct) :
    r.entries.filter (fun e => (Registry.sweep t now idle maxKeys r).1.contains e.1) =
      (Registry.sweep t now idle maxKeys r).1.entries := by
  obtain ⟨p, hp⟩ : ∃ p, (Registry.sweep t now idle maxKeys r).1.entries = r.entries.filter p :=
    ⟨_, (congrArg entries (sweep_fst t now idle maxKeys r)).trans List.filter_filter⟩
  rw [hp]
  refine List.filter_congr fun e he => Bool.eq_iff_iff.2 ?_
  rw [hr.contains_iff_mem (hr.sweep t now idle maxKeys)
    (fun f hf => (sweep_sublist t now idle maxKeys r).subset hf) he, hp, List.mem_filter]
  exact and_iff_right he

omit hfree in
theorem Distinct.sweepSparing_without (hr : r.Distinct)
    (hgone : (Registry.sweep t now idle maxKeys r).1.get? key = none) :
    (sweepSparing t now idle maxKeys key r).without key =
      (Registry.sweep t now idle maxKeys r).1 := by
  have hkeys : (sweepSparing t now idle maxKeys key r).without key =
      Registry.without ⟨r.entries.filter fun e =>
        (Registry.sweep t now idle maxKeys r).1.contains e.1⟩ key := by
    unfold Registry.without sweepSparing
    rw [List.filter_filter, List.filter_filter]
    refine congrArg Registry.mk (List.filter_congr fun e _ => ?_)
    by_cases hk : e.1 = key
    · simp [hk]
    · rw [beq_eq_false_iff_ne.2 hk, Bool.false_or]
  rw [hkeys, hr.filter_contains_sweep]
  exact without_eq_self hgone

end Sweep

end Registry

end Turnstile
