import Turnstile.Data.Basic
import Turnstile.Decimal.Layout
import Turnstile.Text.Quoted
/-!
Data as text in two forms: an indented document with an item on each line, two blanks deeper on each
level, and the fields of a table in the order of their names; and all on one line.
-/
namespace Turnstile.Data

def indentation (depth : Nat) : String := String.ofList (List.replicate (2 * depth) ' ')

def bracketed (left right : String) (depth : Nat) (lines : List String) : String :=
  if lines.isEmpty then left ++ right
  else
    let inner := indentation (depth + 1)
    left ++ "\n" ++ ",\n".intercalate (lines.map (inner ++ ·)) ++ "\n" ++ indentation depth ++ right

/-- Whole floats keep a point; long ones are written with an exponent. -/
def floatText (x : Float) : String := DecimalLayout.compact.text x

mutual

/-- The document of some data, whose first line stands at `depth`. -/
def printAt (depth : Nat) : Data → String
  | .null => "null"
  | .bool true => "true"
  | .bool false => "false"
  | .int n => toString n
  | .float x => floatText x
  | .string s => Text.documentString s
  | .moment text => Text.documentString text
  | .list items => bracketed "[" "]" depth (printItems (depth + 1) items)
  | .tables items => bracketed "[" "]" depth (printItems (depth + 1) items)
  | .table fields =>
    let named := (printFields (depth + 1) fields).mergeSort fun a b => a.1 ≤ b.1
    bracketed "\x7b" "\x7d" depth (named.map fun f => Text.documentString f.1 ++ ": " ++ f.2)

def printItems (depth : Nat) : List Data → List String
  | [] => []
  | item :: rest => printAt depth item :: printItems depth rest

def printFields (depth : Nat) : List (String × Data) → List (String × String)
  | [] => []
  | (name, value) :: rest => (name, printAt depth value) :: printFields depth rest

end

def print (d : Data) : String := d.printAt 0

mutual

def line : Data → String
  | .null => "null"
  | .bool true => "true"
  | .bool false => "false"
  | .int n => toString n
  | .float x => floatText x
  | .string s => Text.documentString s
  | .moment text => Text.documentString text
  | .list items => "[" ++ ",".intercalate (lineItems items) ++ "]"
  | .tables items => "[" ++ ",".intercalate (lineItems items) ++ "]"
  | .table fields => "\x7b" ++ ",".intercalate (lineFields fields) ++ "\x7d"

def lineItems : List Data → List String
  | [] => []
  | item :: rest => line item :: lineItems rest

def lineFields : List (String × Data) → List String
  | [] => []
  | (name, value) :: rest => (Text.documentString name ++ ":" ++ line value) :: lineFields rest

end

end Turnstile.Data
