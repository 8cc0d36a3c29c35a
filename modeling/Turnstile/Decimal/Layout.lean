import Turnstile.Decimal.Shortest
/-!
How a decimal is laid out as text: with its point in place, or with an exponent where that would
take too many zeros.
-/
namespace Turnstile

structure DecimalLayout where
  /-- The most digits before the point; any number when not given. -/
  whole : Option Nat
  /-- The most zeros between the point and the first digit; any number when not given. -/
  leading : Option Nat
  tie : TieRule

namespace DecimalLayout

def exponentText (e : Int) : List Char :=
  'e' :: (if 0 ≤ e then '+' :: (toString e).toList else (toString e).toList)

/-- The text of `digits` (of which there is at least one) with the point after the first `point`
of them. A whole number keeps a point and a zero. -/
def positive (layout : DecimalLayout) (digits : List Char) (point : Int) : List Char :=
  let count := digits.length
  if 0 < point ∧ layout.whole.all (point ≤ ·) then
    let whole := point.toNat
    if count ≤ whole then digits ++ List.replicate (whole - count) '0' ++ ['.', '0']
    else digits.take whole ++ '.' :: digits.drop whole
  else if point ≤ 0 ∧ layout.leading.all (-point ≤ ·) then
    '0' :: '.' :: (List.replicate (-point).toNat '0' ++ digits)
  else
    let fraction := if digits.tail.isEmpty then [] else '.' :: digits.tail
    digits.take 1 ++ fraction ++ exponentText (point - 1)

def text (layout : DecimalLayout) (x : Float) : String :=
  if x.isNaN then "NaN"
  else
    let sign := if x.toBits.toNat < 0x8000000000000000 then [] else ['-']
    let body :=
      if x.isInf then "inf".toList
      else
        let d := Decimal.shortest layout.tie x
        if d.digits = 0 then "0.0".toList
        else
          let digits := Nat.toDigits 10 d.digits
          layout.positive digits (digits.length + d.exponent)
    String.ofList (sign ++ body)

/-- Always with the point in place; a tie goes up. -/
def plain : DecimalLayout := ⟨none, none, .up⟩

/-- At most sixteen digits before the point and four zeros after it; a tie goes to the even digit. -/
def compact : DecimalLayout := ⟨some 16, some 4, .toEven⟩

example : compact.text 50 = "50.0" ∧ compact.text 33.3 = "33.3" := by decide +kernel
example : compact.text 1e-5 = "0.00001" ∧ compact.text 1e-6 = "1e-6" := by decide +kernel
example : compact.text 1e15 = "1000000000000000.0" ∧ compact.text 1.5e16 = "1.5e+16" := by
  decide +kernel
example : plain.text (-1e17) = "-100000000000000000.0" := by decide +kernel

end DecimalLayout
end Turnstile
