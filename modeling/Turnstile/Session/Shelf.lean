/-!
A shelf holds values under names, one under each name.
-/
namespace Turnstile

structure Shelf (α : Type) where
  items : List (String × α)

namespace Shelf

variable {α : Type}

def empty : Shelf α := ⟨[]⟩

instance : Inhabited (Shelf α) := ⟨empty⟩

def get? (s : Shelf α) (name : String) : Option α := (s.items.find? (·.1 == name)).map (·.2)

def erase (s : Shelf α) (name : String) : Shelf α := ⟨s.items.filter (·.1 != name)⟩

def put (s : Shelf α) (name : String) (a : α) : Shelf α := ⟨(s.erase name).items ++ [(name, a)]⟩

def set (s : Shelf α) (name : String) (left : Option α) : Shelf α :=
  left.elim (s.erase name) (s.put name)

theorem get?_put_self (s : Shelf α) (name : String) (a : α) :
    (s.put name a).get? name = some a := by
  have h : List.find? (fun e : String × α => e.1 == name) (s.erase name).items = none := by
    simp [erase, List.find?_eq_none]
  simp [get?, put, List.find?_append, h]

theorem get?_erase_self (s : Shelf α) (name : String) : (s.erase name).get? name = none := by
  simp [get?, erase, List.find?_eq_none]

theorem get?_erase (s : Shelf α) (name other : String) :
    (s.erase name).get? other = if other = name then none else s.get? other := by
  by_cases hn : other = name
  · rw [if_pos hn, hn, get?_erase_self]
  · rw [if_neg hn]
    simp only [get?, erase, List.find?_filter]
    congr 2
    funext e
    by_cases he : e.1 = other <;> simp [he, hn]

theorem get?_put (s : Shelf α) (name other : String) (a : α) :
    (s.put name a).get? other = if other = name then some a else s.get? other := by
  by_cases hn : other = name
  · rw [if_pos hn, hn, get?_put_self]
  · have h : (s.erase name).get? other = s.get? other := by rw [get?_erase, if_neg hn]
    rw [if_neg hn, ← h]
    simp [get?, put, List.find?_append, Ne.symm hn]

theorem get?_set (s : Shelf α) (name other : String) (left : Option α) :
    (s.set name left).get? other = if other = name then left else s.get? other := by
  cases left with
  | none => exact s.get?_erase name other
  | some a => exact s.get?_put name other a

end Shelf
end Turnstile
