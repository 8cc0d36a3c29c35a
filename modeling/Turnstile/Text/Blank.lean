/-!
Blank characters and trimming. A character is blank when it has the Unicode property White_Space.
-/
namespace Turnstile.Text

/-- The 25 characters of the Unicode property White_Space. -/
def isBlank (c : Char) : Bool :=
  let n := c.toNat
  (9 ≤ n && n ≤ 13) || n == 0x20 || n == 0x85 || n == 0xA0 || n == 0x1680 ||
  (0x2000 ≤ n && n ≤ 0x200A) || n == 0x2028 || n == 0x2029 || n == 0x202F ||
  n == 0x205F || n == 0x3000

example : isBlank '\u3000' = true ∧ isBlank '\u200b' = false ∧ isBlank '\x0c' = true := by decide

def trimmed (cs : List Char) : List Char :=
  ((cs.dropWhile isBlank).reverse.dropWhile isBlank).reverse

def trim (s : String) : String := String.ofList (trimmed s.toList)

example : trim " a b\u00a0" = "a b" := by decide +kernel

end Turnstile.Text
