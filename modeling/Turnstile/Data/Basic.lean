/-!
Structured data, as it stands in a configuration document: the result of reading one, and what is
printed as one.
-/
namespace Turnstile

inductive Data where
  | null
  | bool (b : Bool)
  | int (n : Int)
  | float (x : Float)
  | string (s : String)
  | moment (text : String)
  | list (items : List Data)
  /-- A list of tables, each of which was written under a header of its own. -/
  | tables (items : List Data)
  | table (fields : List (String × Data))

namespace Data

instance : Inhabited Data := ⟨.null⟩

def items? : Data → Option (List Data)
  | .list items => some items
  | .tables items => some items
  | _ => none

def field? (name : String) : Data → Option Data
  | .table fields => (fields.find? (·.1 == name)).map (·.2)
  | _ => none

def ofNat (n : Nat) : Data := .int n

def ofOption {α : Type} (f : α → Data) : Option α → Data
  | none => .null
  | some a => f a

def strings (items : List String) : Data := .list (items.map .string)

end Data
end Turnstile
