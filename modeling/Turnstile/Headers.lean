import Turnstile.Text.Blank
/-!
Header and trailer fields of a call. Names are kept in lower case, a name may occur several times,
and a lookup gives the value that was appended first. A value is readable when it holds only visible
ASCII, spaces and tabs.
-/
namespace Turnstile

def isReadable (value : String) : Bool :=
  value.toList.all fun c => (32 ≤ c.toNat && c.toNat < 127) || c == '\t'

/-- Whether text can stand in a header: no control character but the tab. -/
def isHeaderText (value : String) : Bool :=
  value.toList.all fun c => (32 ≤ c.toNat && c.toNat ≠ 127) || c == '\t'

/-- Fields in the order in which they were appended, with names in lower case. -/
structure Headers where
  fields : List (String × String)
  deriving DecidableEq, Inhabited

namespace Headers

def empty : Headers := ⟨[]⟩

def append (h : Headers) (name value : String) : Headers :=
  ⟨h.fields ++ [(name.toLower, value)]⟩

def ofList (fields : List (String × String)) : Headers :=
  fields.foldl (fun h f => h.append f.1 f.2) empty

theorem fields_ofList (fields : List (String × String)) :
    (ofList fields).fields = fields.map fun f => (f.1.toLower, f.2) := by
  have hfold : ∀ h : Headers, (fields.foldl (fun h f => h.append f.1 f.2) h).fields =
      h.fields ++ fields.map fun f => (f.1.toLower, f.2) := by
    induction fields with
    | nil => simp
    | cons f fields ih =>
      intro h
      rw [List.foldl_cons, ih]
      simp [append]
  exact hfold empty

def first? (h : Headers) (name : String) : Option String :=
  (h.fields.find? fun f => f.1 == name.toLower).map (·.2)

def contains (h : Headers) (name : String) : Bool := (h.first? name).isSome

/-- The first value of a name if that one is readable; later values are not looked at. -/
def readable? (h : Headers) (name : String) : Option String :=
  (h.first? name).filter isReadable

def sorted (h : Headers) : List (String × String) :=
  h.fields.mergeSort fun a b => a.1 ≤ b.1

end Headers
end Turnstile
