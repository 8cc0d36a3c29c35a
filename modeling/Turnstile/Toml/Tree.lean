import Turnstile.Data.Basic
/-!
The tables of a TOML document while it is read. A table may be named before it is defined, and how
it came to be says what may still be added to it.
-/
namespace Turnstile.Toml

inductive Standing where
  /-- Named on the way to another table by a header. A header may still define it. -/
  | implied
  /-- Made by a dotted key. Further dotted keys may add to it. -/
  | dotted
  | defined
  deriving DecidableEq, Inhabited

inductive Tree where
  | value (d : Data)
  | table (standing : Standing) (entries : List (String × Tree))
  /-- Tables under one name, the last of which is the one that is meant further on. -/
  | tables (items : List (List (String × Tree)))

abbrev Entries := List (String × Tree)

namespace Tree

mutual

def toData : Tree → Data
  | .value d => d
  | .table _ entries => .table (entriesData entries)
  | .tables items => .tables (itemsData items)

def entriesData : List (String × Tree) → List (String × Data)
  | [] => []
  | (name, tree) :: rest => (name, toData tree) :: entriesData rest

def itemsData : List (List (String × Tree)) → List Data
  | [] => []
  | entries :: rest => .table (entriesData entries) :: itemsData rest

end

end Tree

namespace Entries

def get? (entries : Entries) (name : String) : Option Tree :=
  (entries.find? (·.1 == name)).map (·.2)

def without (entries : Entries) (name : String) : Entries := entries.filter (·.1 != name)

def put (entries : Entries) (name : String) (tree : Tree) : Entries :=
  if (entries.get? name).isSome then
    entries.map fun e => if e.1 == name then (name, tree) else e
  else entries ++ [(name, tree)]

/-- Changes the table at the end of a path. Tables that are missing on the way are made, by a dotted
key or by a header; a dotted key does not lead through a table that a header defined. -/
def change (byKey : Bool) (f : Standing → Entries → Option Entries) :
    List String → Standing → Entries → Option Entries
  | [], standing, entries => f standing entries
  | name :: path, _, entries =>
    match entries.get? name with
    | none =>
      let standing := if byKey then Standing.dotted else .implied
      (change byKey f path standing []).map fun sub => entries.put name (.table standing sub)
    | some (.table standing sub) =>
      if byKey && standing == .defined then none
      else (change byKey f path standing sub).map fun sub => entries.put name (.table standing sub)
    | some (.tables items) => do
      let last ← items.getLast?
      let last ← change byKey f path .defined last
      return entries.put name (.tables (items.dropLast ++ [last]))
    | some (.value _) => none

def addValue (entries : Entries) (path : List String) (name : String) (d : Data) :
    Option Entries :=
  let set (standing : Standing) (target : Entries) : Option Entries :=
    if (standing == .dotted) == path.isEmpty then none
    else if (target.get? name).isSome then none
    else some (target ++ [(name, .value d)])
  change true set path .defined entries

def addValues (entries : Entries) (values : List (List String × String × Data)) :
    Option Entries :=
  values.foldlM (fun entries v => entries.addValue v.1 v.2.1 v.2.2) entries

/-- Defines the table at the end of a path, which at most has been implied. -/
def define (entries : Entries) (path : List String) (name : String)
    (values : List (List String × String × Data)) : Option Entries :=
  let set (_ : Standing) (parent : Entries) : Option Entries :=
    match parent.get? name with
    | none => (addValues [] values).map fun t => parent ++ [(name, .table .defined t)]
    | some (.table .implied sub) =>
      (addValues sub values).map fun t => parent.without name ++ [(name, .table .defined t)]
    | some _ => none
  change false set path .defined entries

def defineNext (entries : Entries) (path : List String) (name : String)
    (values : List (List String × String × Data)) : Option Entries :=
  let set (_ : Standing) (parent : Entries) : Option Entries :=
    match parent.get? name with
    | none => (addValues [] values).map fun t => parent ++ [(name, .tables [t])]
    | some (.tables items) =>
      (addValues [] values).map fun t => parent.put name (.tables (items ++ [t]))
    | some _ => none
  change false set path .defined entries

end Entries
end Turnstile.Toml
