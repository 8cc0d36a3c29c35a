/-!
Reading text from left to right: single characters, runs of them, and repetitions.
-/
namespace Turnstile.Text

/-- Reads something from the start of a text, or fails and leaves the text as it was. -/
abbrev Scan := StateT (List Char) Option

namespace Scan

variable {α β : Type}

def one (kind : Char → Bool) : Scan Char := fun
  | [] => none
  | c :: rest => if kind c then some (c, rest) else none

def char (c : Char) : Scan Unit := discard (one (· == c))

def literal (text : String) : Scan Unit := text.toList.forM char

def run (kind : Char → Bool) : Scan (List Char) := fun cs =>
  some (cs.takeWhile kind, cs.dropWhile kind)

def run1 (kind : Char → Bool) : Scan (List Char) := do
  let cs ← run kind
  if cs.isEmpty then failure else return cs

def atEnd : Scan Unit := fun
  | [] => some ((), [])
  | _ => none

/-- Whether a text comes next, which is not taken. -/
def next (text : String) : Scan Bool := fun cs => some (text.toList.isPrefixOf cs, cs)

def optional? (p : Scan α) : Scan (Option α) := some <$> p <|> pure none

def upTo (p : Scan α) : Nat → Scan (List α)
  | 0 => pure []
  | n + 1 => (do
      let a ← p
      let rest ← upTo p n
      return a :: rest) <|> pure []

/-- As many readings in a row as there are; each has to take a character. -/
def many (p : Scan α) : Scan (List α) := do upTo p (← get).length

def separated1 (p : Scan α) (separator : Scan β) : Scan (List α) := do
  let first ← p
  let rest ← many (separator *> p)
  return first :: rest

def exactly (n : Nat) (kind : Char → Bool) : Scan (List Char) :=
  (List.replicate n kind).mapM one

def whole (p : Scan α) (text : String) : Option α := (p <* atEnd).run' text.toList

end Scan

def isDigit (c : Char) : Bool := 48 ≤ c.toNat && c.toNat ≤ 57

end Turnstile.Text
