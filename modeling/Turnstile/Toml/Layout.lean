import Turnstile.Text.Scan
/-!
What may stand between the parts of a TOML document: blanks, comments and ends of lines.
-/
namespace Turnstile.Toml

open Text Scan

def isPrintable (c : Char) : Bool := c == '\t' || (32 ≤ c.toNat && c.toNat ≠ 127)

def isSpace (c : Char) : Bool := c == ' ' || c == '\t'

def spaces : Scan Unit := discard (run isSpace)

def newline : Scan Unit := char '\n' <|> literal "\r\n"

def comment : Scan Unit := char '#' *> discard (run isPrintable)

/-- What may follow on a line when all has been said: blanks and a comment. -/
def lineEnd : Scan Unit := do
  spaces
  discard (optional? comment)
  newline <|> atEnd

def gap : Scan Unit := do
  spaces
  discard (many (optional? comment *> newline *> spaces))

end Turnstile.Toml
