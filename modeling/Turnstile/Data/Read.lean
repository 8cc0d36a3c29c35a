import Turnstile.Data.Basic
import Turnstile.Decimal.Nearest
import Turnstile.Text.Integer
import Turnstile.Text.Scan
/-!
Reading data from a JSON text. A whole number that fits into 64 bits, with or without a sign, is
read as it is; any other number becomes a float.
-/
namespace Turnstile.Data

open Text Scan

def nestingLimit : Nat := 128

def blanks : Scan Unit := discard (run fun c => c == ' ' || c == '\t' || c == '\n' || c == '\r')

def token {α : Type} (p : Scan α) : Scan α := p <* blanks

def unit16 : Scan Nat := do
  let digits ← exactly 4 fun c => (digitValue? 16 c).isSome
  return digitsValue 16 (digits.filterMap (digitValue? 16))

/-- A character by its number; one above 16 bits is written as a pair of surrogates. -/
def numberedChar : Scan Char := do
  literal "\\u"
  let high ← unit16
  let n ←
    if 0xD800 ≤ high ∧ high < 0xDC00 then do
      literal "\\u"
      let low ← unit16
      if 0xDC00 ≤ low ∧ low < 0xE000 then
        pure (0x10000 + (high - 0xD800) * 0x400 + (low - 0xDC00))
      else failure
    else pure high
  if n.isValidChar then return Char.ofNat n else failure

def escapedChar : Scan Char := do
  char '\\'
  match ← one fun _ => true with
  | 'b' => return '\x08'
  | 'f' => return '\x0c'
  | 'n' => return '\n'
  | 'r' => return '\r'
  | 't' => return '\t'
  | '"' => return '"'
  | '\\' => return '\\'
  | '/' => return '/'
  | _ => failure

def quoted : Scan String := do
  char '"'
  let pieces ← many <|
    run1 (fun c => c != '"' && c != '\\' && 32 ≤ c.toNat) <|>
    (return [← numberedChar]) <|> (return [← escapedChar])
  char '"'
  return String.ofList pieces.flatten

def wholePart : Scan (List Char) := do
  if ← next "0" then
    char '0'
    return ['0']
  else run1 isDigit

def power : Scan Int := do
  discard (one fun c => c == 'e' || c == 'E')
  let negative ← (char '-' *> pure true) <|> (char '+' *> pure false) <|> pure false
  let n := decimalValue (← run1 isDigit)
  return if negative then -(n : Int) else n

/-- A whole number as it is where it fits. The zero with a minus sign is a float. -/
def ofWhole (negative : Bool) (n : Nat) : Data :=
  if negative then
    if 0 < n ∧ n ≤ 0x8000000000000000 then .int (-n) else .float (-Decimal.nearest n 0)
  else if n ≤ 0xffffffffffffffff then .int n
  else .float (Decimal.nearest n 0)

def number : Scan Data := do
  let negative := (← optional? (char '-')).isSome
  let whole ← wholePart
  let fraction ← optional? (char '.' *> run1 isDigit)
  let exponent ← optional? power
  if fraction.isNone ∧ exponent.isNone then return ofWhole negative (decimalValue whole)
  else
    let places := fraction.getD []
    let x := Decimal.nearest (decimalValue (whole ++ places)) (exponent.getD 0 - places.length)
    return .float (if negative then -x else x)

def value : Nat → Scan Data
  | 0 => failure
  | n + 1 =>
    (Data.string <$> token quoted) <|> token number <|>
    (token (literal "null") *> pure .null) <|> (token (literal "true") *> pure (.bool true)) <|>
    (token (literal "false") *> pure (.bool false)) <|>
    (do
      token (char '[')
      let items ← separated1 (value n) (token (char ',')) <|> pure []
      token (char ']')
      return .list items) <|>
    (do
      token (char '\x7b')
      let field : Scan (String × Data) := do
        let name ← token quoted
        token (char ':')
        return (name, ← value n)
      let fields ← separated1 field (token (char ',')) <|> pure []
      token (char '\x7d')
      return .table fields)

def read? (text : String) : Option Data := whole (blanks *> value nestingLimit) text

end Turnstile.Data
