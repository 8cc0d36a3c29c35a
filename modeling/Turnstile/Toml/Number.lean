import Turnstile.Decimal.Nearest
import Turnstile.Text.Integer
import Turnstile.Toml.Layout
/-!
Numbers in a TOML document: whole ones that fit into 64 bits with a sign, in four bases, and floats.
An underscore may stand between two digits.
-/
namespace Turnstile.Toml

open Text Scan

def isDigitOf (base : Nat) (c : Char) : Bool := (Text.digitValue? base c).isSome

def digits (base : Nat) : Scan (List Char) := do
  let first ← one (isDigitOf base)
  let rest ← many (optional? (char '_') *> one (isDigitOf base))
  return first :: rest

def valueOf (base : Nat) (cs : List Char) : Nat :=
  Text.digitsValue base (cs.filterMap (Text.digitValue? base))

def sign : Scan Bool := (char '-' *> pure true) <|> (char '+' *> pure false) <|> pure false

def wholeDigits : Scan (List Char) := do
  if ← next "0" then
    char '0'
    return ['0']
  else digits 10

def inRange (n : Int) : Bool := -0x8000000000000000 ≤ n && n ≤ 0x7fffffffffffffff

def integer : Scan Int := do
  let n : Int ←
    if ← next "0x" then do literal "0x"; pure (Int.ofNat (valueOf 16 (← digits 16)))
    else if ← next "0o" then do literal "0o"; pure (Int.ofNat (valueOf 8 (← digits 8)))
    else if ← next "0b" then do literal "0b"; pure (Int.ofNat (valueOf 2 (← digits 2)))
    else do
      let negative ← sign
      let n := valueOf 10 (← wholeDigits)
      pure (if negative then -(n : Int) else n)
  if inRange n then return n else failure

def exponent : Scan Int := do
  discard (one fun c => c == 'e' || c == 'E')
  let negative ← sign
  let n := valueOf 10 (← digits 10)
  return if negative then -(n : Int) else n

/-- A float with a point or an exponent. One too large for a float is refused. -/
def decimal : Scan Float := do
  let negative ← sign
  let before ← wholeDigits
  let after ← optional? (char '.' *> digits 10)
  let power ← optional? exponent
  if after.isNone ∧ power.isNone then failure
  let fraction := after.getD []
  let x := Decimal.nearest (valueOf 10 (before ++ fraction)) (power.getD 0 - fraction.length)
  if negative then return -x
  else if x.isInf then failure
  else return x

def special : Scan Float := do
  let negative ← sign
  let x ← (literal "inf" *> pure (1 / 0 : Float)) <|> (literal "nan" *> pure (0 / 0 : Float))
  return if negative then -x else x

def float : Scan Float := decimal <|> special

example : whole integer "-1_0" = some (-10) ∧ whole integer "0o17" = some 15 := by decide +kernel
example : whole integer "012" = none ∧ whole integer "1__0" = none := by decide +kernel
example : whole integer "9223372036854775808" = none := by decide +kernel

end Turnstile.Toml
