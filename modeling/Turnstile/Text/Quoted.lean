import Turnstile.Text.Hidden
/-!
Quoted text, in two forms: for a document, where only what would break the string is escaped, and
for a diagnostic, where whatever cannot be seen is.
-/
namespace Turnstile.Text

/-- The escape of a control character in a document: four hexadecimal digits. -/
def documentEscape (n : Nat) : List Char :=
  '\\' :: 'u' :: (List.replicate (4 - (Nat.toDigits 16 n).length) '0' ++ Nat.toDigits 16 n)

def documentChar (c : Char) : List Char :=
  match c with
  | '"' => ['\\', '"']
  | '\\' => ['\\', '\\']
  | '\x08' => ['\\', 'b']
  | '\x0c' => ['\\', 'f']
  | '\n' => ['\\', 'n']
  | '\r' => ['\\', 'r']
  | '\t' => ['\\', 't']
  | c => if c.toNat < 32 then documentEscape c.toNat else [c]

def documentString (s : String) : String :=
  String.ofList ('"' :: (s.toList.flatMap documentChar ++ ['"']))

example : documentString "a\"\u0001é" = "\"a\\\"\\u0001é\"" := by decide +kernel

def diagnosticChar (c : Char) : List Char :=
  match c with
  | '"' => ['\\', '"']
  | '\\' => ['\\', '\\']
  | '\x00' => ['\\', '0']
  | '\n' => ['\\', 'n']
  | '\r' => ['\\', 'r']
  | '\t' => ['\\', 't']
  | c => if isHidden c then "\\u\x7b".toList ++ Nat.toDigits 16 c.toNat ++ ['\x7d'] else [c]

def diagnosticString (s : String) : String :=
  String.ofList ('"' :: (s.toList.flatMap diagnosticChar ++ ['"']))

example : diagnosticString "a\"\u200bé" = "\"a\\\"\\u\x7b200b\x7dé\"" := by decide +kernel

end Turnstile.Text
