/-!
Reading decimal numerals: a run of ASCII digits as a number, and signed numerals that must fit into
32 bits.
-/
namespace Turnstile.Text

def digitsValue (base : Nat) (digits : List Nat) : Nat :=
  digits.foldl (fun n d => n * base + d) 0

def digitValue? (base : Nat) (c : Char) : Option Nat :=
  let n := c.toNat
  let value :=
    if 48 ≤ n && n ≤ 57 then some (n - 48)
    else if 97 ≤ n && n ≤ 102 then some (n - 87)
    else if 65 ≤ n && n ≤ 70 then some (n - 55)
    else none
  value.filter (· < base)

/-- The value of decimal digits; other characters do not count. -/
def decimalValue (cs : List Char) : Nat := digitsValue 10 (cs.filterMap (digitValue? 10))

def natural? (cs : List Char) : Option Nat :=
  if cs.isEmpty then none else (cs.mapM (digitValue? 10)).map (digitsValue 10)

def integer? : List Char → Option Int
  | '-' :: cs => (natural? cs).map fun n => -(n : Int)
  | '+' :: cs => (natural? cs).map Int.ofNat
  | cs => (natural? cs).map Int.ofNat

def int32? (cs : List Char) : Option Int :=
  (integer? cs).filter fun n => -2147483648 ≤ n && n ≤ 2147483647

example : int32? "+014".toList = some 14 := by decide +kernel
example : int32? "2147483648".toList = none := by decide +kernel
example : int32? "-".toList = none := by decide +kernel

end Turnstile.Text
