import Turnstile.Key
import Mathlib.Algebra.BigOperators.Group.List.Basic
import Mathlib.Algebra.Ring.Nat
/-!
What a key tells of the segments that it was made of. A colon in a segment looks like the end of one,
so a text can be cut up in several ways; it is known how as soon as it is known how many colons
belong to each segment.
-/
namespace Turnstile.Key

def colons (s : String) : Nat := s.toList.count ':'

theorem colons_eq_zero {s : String} : colons s = 0 ↔ ':' ∉ s.toList := List.count_eq_zero

theorem ofSegments_cons (s : String) (rest : List String) (base : String) :
    (ofSegments (s :: rest) base).text.toList =
      s.toList ++ ':' :: (ofSegments rest base).text.toList := by
  simp [ofSegments]

theorem colons_ofSegments (segments : List String) (base : String) :
    colons (ofSegments segments base).text =
      (segments.map colons).sum + segments.length + colons base := by
  induction segments with
  | nil => simp [ofSegments]
  | cons s rest ih =>
    unfold colons at ih ⊢
    rw [ofSegments_cons, List.count_append, List.count_cons_self, ih]
    simp only [List.map_cons, List.sum_cons, List.length_cons]
    omega

theorem cut_unique {a b x y : List Char} (hc : a.count ':' = b.count ':')
    (h : a ++ ':' :: x = b ++ ':' :: y) : a = b ∧ x = y := by
  rcases List.append_eq_append_iff.1 h with ⟨c, hb, hx⟩ | ⟨c, ha, hy⟩
  · cases c with
    | nil => simp_all
    | cons d c =>
      have hd : d = ':' := (List.cons.inj hx).1.symm
      rw [hb, hd, List.count_append, List.count_cons_self] at hc
      omega
  · cases c with
    | nil => simp_all
    | cons d c =>
      have hd : d = ':' := (List.cons.inj hy).1.symm
      rw [ha, hd, List.count_append, List.count_cons_self] at hc
      omega

/-- A key gives its segments back if it is known how many colons each of them holds. -/
theorem ofSegments_inj {xs ys : List String} {base base' : String}
    (hc : xs.map colons = ys.map colons) (h : ofSegments xs base = ofSegments ys base') :
    xs = ys ∧ base = base' := by
  induction xs generalizing ys with
  | nil =>
    cases ys with
    | nil => exact ⟨rfl, congrArg Key.text h⟩
    | cons y ys => cases hc
  | cons x xs ih =>
    cases ys with
    | nil => cases hc
    | cons y ys =>
      obtain ⟨hxy, hrest⟩ := List.cons.inj hc
      have ht := congrArg (fun k : Key => k.text.toList) h
      simp only [ofSegments_cons] at ht
      obtain ⟨hx, ht⟩ := cut_unique hxy ht
      have hk : ofSegments xs base = ofSegments ys base' :=
        congrArg Key.mk (String.toList_inj.1 ht)
      obtain ⟨hs, hb⟩ := ih hrest hk
      exact ⟨congrArg₂ List.cons (String.toList_inj.1 hx) hs, hb⟩

end Turnstile.Key
