import Turnstile.Toml.Moment
import Turnstile.Toml.Number
import Turnstile.Toml.Text
import Turnstile.Toml.Tree
/-!
TOML documents. A document is a sequence of sections: values under keys, and before all but the
first section the header of the table to which they belong.
-/
namespace Turnstile.Toml

open Text Scan

/-- Nothing nests this deep: neither lists and tables in lists and tables, nor names in a key. -/
def nestingLimit : Nat := 80

def isBareKey (c : Char) : Bool := c.isAlphanum || c == '_' || c == '-'

def simpleKey : Scan String :=
  escapedText <|> plainText <|> (String.ofList <$> run1 isBareKey)

def key : Scan (List String × String) := do
  let names ← separated1 (spaces *> simpleKey <* spaces) (char '.')
  if names.length < nestingLimit then
    return (names.dropLast, names.getLastD "")
  else failure

def pair (value : Scan Data) : Scan (List String × String × Data) := do
  let (path, name) ← key
  char '='
  spaces
  let d ← value
  return (path, name, d)

/-- Items of a list between brackets, over any number of lines; a comma may follow the last. -/
def listOf (value : Scan Data) : Scan Data := do
  char '['
  let items ← separated1 (gap *> value <* gap) (char ',') <|> pure []
  if !items.isEmpty then discard (optional? (char ','))
  gap
  char ']'
  return .list items

/-- Keys and values between braces, all on one line; no comma follows the last. -/
def tableOf (value : Scan Data) : Scan Data := do
  char '\x7b'
  let values ← separated1 (pair value <* spaces) (char ',') <|> pure []
  spaces
  char '\x7d'
  let entries ← liftM (Entries.addValues [] values)
  return .table (Tree.entriesData entries)

def plainValue : Scan Data :=
  (Data.string <$> text) <|> (Data.moment <$> moment) <|> (Data.float <$> float) <|>
  (Data.int <$> integer) <|> (literal "true" *> pure (.bool true)) <|>
  (literal "false" *> pure (.bool false))

def value : Nat → Scan Data
  | 0 => plainValue
  | n + 1 => plainValue <|> listOf (value n) <|> tableOf (value n)

inductive Header where
  | table (path : List String) (name : String)
  | nextTable (path : List String) (name : String)
  deriving DecidableEq

def header : Scan Header := do
  if ← next "[[" then
    literal "[["
    let (path, name) ← key
    literal "]]"
    return .nextTable path name
  else
    char '['
    let (path, name) ← key
    char ']'
    return .table path name

inductive Line where
  | blank
  | header (h : Header)
  | value (path : List String) (name : String) (d : Data)

/-- A line up to its end. The last line may end with the text; there is none after that. -/
def line : Scan Line := do
  if (← get).isEmpty then failure
  spaces
  let content ← (Line.header <$> header) <|>
    ((fun v => Line.value v.1 v.2.1 v.2.2) <$> pair (value (nestingLimit - 1))) <|>
    pure .blank
  lineEnd
  return content

/-- A header with the values under it; the first section of a document has no header. -/
structure Section where
  header : Option Header
  values : List (List String × String × Data)

def sections (lines : List Line) : List Section :=
  let (rest, values) := lines.foldr (fun line (after, values) =>
    match line with
    | .blank => (after, values)
    | .header h => (⟨some h, values⟩ :: after, [])
    | .value path name d => (after, (path, name, d) :: values)) ([], [])
  ⟨none, values⟩ :: rest

def addSection (entries : Entries) (s : Section) : Option Entries :=
  match s.header with
  | none => entries.addValues s.values
  | some (.table path name) => entries.define path name s.values
  | some (.nextTable path name) => entries.defineNext path name s.values

/-- The lines of a whole document. A mark of the byte order in front is passed over. -/
def lines : Scan (List Line) := do
  discard (optional? (char '\ufeff'))
  let lines ← many line
  atEnd
  return lines

def document? (source : String) : Option Data := do
  let lines ← whole lines source
  let entries ← (sections lines).foldlM addSection []
  return .table (Tree.entriesData entries)

end Turnstile.Toml
