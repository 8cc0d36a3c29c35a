import Turnstile.Text.Integer
import Turnstile.Toml.Layout
/-!
Quoted text in a TOML document: in double quotes with escapes, in single quotes without, and both
over several lines between three quotes.
-/
namespace Turnstile.Toml

open Text Scan

def isHexDigit (c : Char) : Bool := (Text.digitValue? 16 c).isSome

def charOf? (n : Nat) : Option Char := if n.isValidChar then some (Char.ofNat n) else none

def codePoint (width : Nat) : Scan Char := do
  let digits ← exactly width isHexDigit
  liftM (charOf? (Text.digitsValue 16 (digits.filterMap (Text.digitValue? 16))))

def escape : Scan Char := do
  char '\\'
  match ← one fun _ => true with
  | 'b' => return '\x08'
  | 'f' => return '\x0c'
  | 'n' => return '\n'
  | 'r' => return '\r'
  | 't' => return '\t'
  | '"' => return '"'
  | '\\' => return '\\'
  | 'u' => codePoint 4
  | 'U' => codePoint 8
  | _ => failure

def isPlain (quote c : Char) : Bool := isPrintable c && c != quote

def escapedText : Scan String := do
  char '"'
  let cs ← many (one (fun c => isPlain '"' c && c != '\\') <|> escape)
  char '"'
  return String.ofList cs

def plainText : Scan String := do
  char '\''
  let cs ← run (isPlain '\'')
  char '\''
  return String.ofList cs

/-- A backslash at the end of a line, which takes away the blanks and line ends after it. -/
def continuation : Scan (List Char) := do
  char '\\'
  spaces
  newline
  discard (many (newline <|> discard (run1 isSpace)))
  return []

def fewQuotes (quote : Char) : Scan (List Char) := do
  let quotes ← run1 (· == quote)
  if quotes.length < 3 then return quotes else failure

/-- Three quotes at the end of a text; one or two more before them belong to the text. -/
def closingQuotes (quote : Char) : Scan (List Char) := do
  let quotes ← run (· == quote)
  if 3 ≤ quotes.length ∧ quotes.length ≤ 5 then return quotes.drop 3 else failure

/-- Text over several lines between three quotes. A line end right at the start does not count, and
every other line end counts as a line feed. -/
def linesText (quote : Char) (piece : Scan (List Char)) : Scan String := do
  literal (String.ofList [quote, quote, quote])
  discard (optional? newline)
  let pieces ← many (piece <|> (newline *> pure ['\n']) <|> fewQuotes quote)
  let quotes ← closingQuotes quote
  return String.ofList (pieces.flatten ++ quotes)

def escapedLines : Scan String :=
  linesText '"' (run1 (fun c => isPlain '"' c && c != '\\') <|> continuation <|>
    (return [← escape]))

def plainLines : Scan String := linesText '\'' (run1 (isPlain '\''))

def text : Scan String := do
  if ← next "\"\"\"" then escapedLines
  else if ← next "'''" then plainLines
  else escapedText <|> plainText

example : whole text "\"a\\u00e9\\n\"" = some "aé\n" := by decide +kernel
example : whole text "\"\"\"\na \\\n  b\"\"\"\"" = some "a b\"" := by decide +kernel
example : whole text "'''a''''''" = none := by decide +kernel

end Turnstile.Toml
