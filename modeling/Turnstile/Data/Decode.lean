import Turnstile.Data.Basic
import Turnstile.Decimal.Layout
import Turnstile.Text.Quoted
/-!
Reading typed values out of data. Decoding stops at the first thing that does not fit and names what
was found and what was expected. The two document formats differ in a few corners, which are listed
at `DataFormat`.
-/
namespace Turnstile

/-- The format that some data was read from. A JSON document knows `null`, shows floats compactly and
has no room for more items than a record has fields; a TOML document shows floats in full and takes
no notice of such items. -/
inductive DataFormat where
  | json | toml
  deriving DecidableEq, Inhabited

inductive Found where
  | null
  | bool (b : Bool)
  | int (n : Int)
  | float (x : Float)
  | string (s : String)
  | sequence
  | map

inductive DecodeError where
  | invalidType (found : Found) (expected : String)
  | invalidValue (found : Found) (expected : String)
  | invalidLength (length : Nat) (expected : String)
  | missingField (name : String)
  | unknownVariant (name : String) (known : List String)
  /-- Neither text nor a table of one field where the name of a variant was expected. -/
  | notVariant (expected : String)

def alternatives (names : List String) : String :=
  match names.map fun n => s!"`{n}`" with
  | [] => "there are no variants"
  | [a] => s!"expected {a}"
  | [a, b] => s!"expected {a} or {b}"
  | all => "expected one of " ++ ", ".intercalate all

namespace Found

def text (format : DataFormat) : Found → String
  | .null => "null"
  | .bool b => s!"boolean `{b}`"
  | .int n => s!"integer `{n}`"
  | .float x =>
    let layout := match format with
      | .json => DecimalLayout.compact
      | .toml => DecimalLayout.plain
    s!"floating point `{layout.text x}`"
  | .string s => s!"string {Text.diagnosticString s}"
  | .sequence => "sequence"
  | .map => "map"

end Found

def DecodeError.message (format : DataFormat) : DecodeError → String
  | .invalidType found expected => s!"invalid type: {found.text format}, expected {expected}"
  | .invalidValue found expected => s!"invalid value: {found.text format}, expected {expected}"
  | .invalidLength length expected => s!"invalid length {length}, expected {expected}"
  | .missingField name => s!"missing field `{name}`"
  | .unknownVariant name known => s!"unknown variant `{name}`, {alternatives known}"
  | .notVariant expected => expected

abbrev Decoded := Except DecodeError

namespace Data

def found : Data → Found
  | .null => .null
  | .bool b => .bool b
  | .int n => .int n
  | .float x => .float x
  | .string s => .string s
  | .moment _ => .map
  | .list _ => .sequence
  | .tables _ => .sequence
  | .table _ => .map

def mismatch {α : Type} (d : Data) (expected : String) : Decoded α :=
  .error (.invalidType d.found expected)

def toBool : Data → Decoded Bool
  | .bool b => .ok b
  | d => d.mismatch "a boolean"

def toText : Data → Decoded String
  | .string s => .ok s
  | d => d.mismatch "a string"

def toFloat : Data → Decoded Float
  | .float x => .ok x
  | .int n => .ok (.ofInt n)
  | d => d.mismatch "f64"

def toIntIn (name : String) (lo hi : Int) : Data → Decoded Int
  | .int n => if lo ≤ n ∧ n ≤ hi then .ok n else .error (.invalidValue (.int n) name)
  | d => d.mismatch name

def toInt64 : Data → Decoded Int := toIntIn "i64" (-0x8000000000000000) 0x7fffffffffffffff
def toNat64 (d : Data) : Decoded Nat := (d.toIntIn "u64" 0 0xffffffffffffffff).map Int.toNat
def toSize (d : Data) : Decoded Nat := (d.toIntIn "usize" 0 0xffffffffffffffff).map Int.toNat
def toNat32 (d : Data) : Decoded Nat := (d.toIntIn "u32" 0 0xffffffff).map Int.toNat

def toOption {α : Type} (read : Data → Decoded α) : Data → Decoded (Option α)
  | .null => .ok none
  | d => (read d).map some

def toList {α : Type} (read : Data → Decoded α) (d : Data) : Decoded (List α) :=
  match d.items? with
  | some items => items.mapM read
  | none => d.mismatch "a sequence"

/-- The name of the one field of a date or time that is taken for a table. -/
def momentField : String := "$__toml_private_datetime"

def fields? : Data → Option (List (String × Data))
  | .table fields => some fields
  | .moment text => some [(momentField, .string text)]
  | _ => none

def insertSorted (name value : String) : List (String × String) → List (String × String)
  | [] => [(name, value)]
  | (n, v) :: rest =>
    if name < n then (name, value) :: (n, v) :: rest
    else if name = n then (name, value) :: rest
    else (n, v) :: insertSorted name value rest

def toTextMap (d : Data) : Decoded (List (String × String)) :=
  match d.fields? with
  | some fields => do
    let pairs ← fields.mapM fun f => (f.2.toText).map (f.1, ·)
    return pairs.foldl (fun sorted p => insertSorted p.1 p.2 sorted) []
  | none => d.mismatch "a map"

def variantNamed {α : Type} (variants : List (String × α)) (name : String) : Decoded α :=
  match variants.find? (·.1 == name) with
  | some (_, a) => .ok a
  | none => .error (.unknownVariant name (variants.map (·.1)))

/-- What a variant without contents may carry where it is written as a table of one field. -/
def toNothing (format : DataFormat) (d : Data) : Decoded Unit :=
  match format, d with
  | .json, .null => .ok ()
  | .json, d => d.mismatch "unit"
  | .toml, .list [] | .toml, .tables [] | .toml, .table [] => .ok ()
  | .toml, .list _ | .toml, .table _ => .error (.notVariant "expected empty table")
  | .toml, .tables _ => .error (.notVariant "expected empty array")
  | .toml, .string _ => .error (.notVariant "expected table, found string")
  | .toml, .int _ => .error (.notVariant "expected table, found integer")
  | .toml, .float _ => .error (.notVariant "expected table, found float")
  | .toml, .bool _ => .error (.notVariant "expected table, found boolean")
  | .toml, .moment _ => .error (.notVariant "expected table, found datetime")
  | .toml, .null => .error (.notVariant "expected table, found none")

def toVariant {α : Type} (format : DataFormat) (variants : List (String × α)) : Data → Decoded α
  | .string name => variantNamed variants name
  | .table [(name, contents)] => do
    let a ← variantNamed variants name
    contents.toNothing format
    return a
  | .table fields =>
    match format with
    | .json => .error (.invalidValue .map "map with a single key")
    | .toml =>
      if fields.isEmpty then .error (.notVariant "wanted exactly 1 element, found 0 elements")
      else .error (.notVariant "wanted exactly 1 element, more than 1 element")
  | d =>
    match format with
    | .json => d.mismatch "string or map"
    | .toml => .error (.notVariant "wanted string or table")

end Data

structure RecordField (α : Type) where
  name : String
  set : Data → α → Decoded α

namespace RecordField

variable {α β : Type}

def of (name : String) (read : Data → Decoded β) (store : β → α → α) : RecordField α where
  name
  set d record := (read d).map (store · record)

end RecordField

namespace Data

variable {α : Type}

/-- Reads the fields that a table names; other names are passed over. -/
def setNamed (fields : List (RecordField α)) (entries : List (String × Data)) (start : α) :
    Decoded α :=
  entries.foldlM (fun record entry =>
    match fields.find? (·.name == entry.1) with
    | some field => field.set entry.2 record
    | none => .ok record) start

/-- Reads the fields in order from the items of a list; the items left over are given back. -/
def setInOrder : List (RecordField α) → List Data → α → Decoded (α × List Data)
  | [], items, record => .ok (record, items)
  | _, [], record => .ok (record, [])
  | field :: fields, item :: items, record => do
    let record ← field.set item record
    setInOrder fields items record

/-- Reads a record, either from a table or from a list of its fields in order. What is not given is
as in `start`. -/
def toRecord (format : DataFormat) (name : String) (fields : List (RecordField α)) (start : α)
    (d : Data) : Decoded α :=
  match d.items? with
  | some items => do
    let (record, rest) ← setInOrder fields items start
    if format = .json ∧ !rest.isEmpty then
      .error (.invalidLength items.length "fewer elements in array")
    else return record
  | none =>
    match d.fields? with
    | some entries => setNamed fields entries start
    | none => d.mismatch s!"struct {name}"

end Data
end Turnstile
