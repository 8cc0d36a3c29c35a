/-!
The shortest decimal of a float: of all decimals that round to it, those with the fewest digits, and of
these the nearest. The search goes over the grids of multiples of a power of ten from the coarsest down;
on each grid only the two neighbours of the value have to be tested.
-/
namespace Turnstile

/-- The number `digits * 10 ^ exponent`. -/
structure Decimal where
  digits : Nat
  exponent : Int
  deriving DecidableEq, Inhabited

inductive TieRule where
  | toEven
  | up
  deriving DecidableEq, Inhabited

def TieRule.keepsLower : TieRule → Nat → Bool
  | .toEven, lower => lower % 2 == 0
  | .up, _ => false

/-- A positive float as `mantissa * 2 ^ exponent`. -/
structure Binary where
  mantissa : Nat
  exponent : Int
  /-- Whether the next smaller float is only half as far away as the next larger one. -/
  narrowBelow : Bool
  deriving DecidableEq, Inhabited

namespace Binary

def ofFloat (x : Float) : Binary :=
  let bits := x.toBits.toNat
  let fraction := bits % Nat.pow 2 52
  let e : Nat := bits / Nat.pow 2 52 % Nat.pow 2 11
  if e = 0 then ⟨fraction, -1074, false⟩
  else ⟨fraction + Nat.pow 2 52, (e : Int) - 1075, fraction == 0 && e != 1⟩

/-- The value and the ends of the interval of numbers that round to it, all over one denominator.
The ends belong to the interval when the mantissa is even. -/
structure Interval where
  low : Nat
  value : Nat
  high : Nat
  denominator : Nat
  closed : Bool

def interval (b : Binary) : Interval :=
  let scale := Nat.pow 2 (b.exponent - 2).toNat
  { low := (4 * b.mantissa - if b.narrowBelow then 1 else 2) * scale
    value := 4 * b.mantissa * scale
    high := (4 * b.mantissa + 2) * scale
    denominator := Nat.pow 2 (2 - b.exponent).toNat
    closed := b.mantissa % 2 == 0 }

end Binary

namespace Binary.Interval

def holds (i : Interval) (n d : Nat) : Bool :=
  let point := n * i.denominator
  if i.closed then i.low * d ≤ point && point ≤ i.high * d
  else i.low * d < point && point < i.high * d

/-- The multiple of `10 ^ k` that rounds to the value and is nearest to it. -/
def onGrid? (tie : TieRule) (i : Interval) (k : Int) : Option Nat :=
  let up := Nat.pow 10 k.toNat
  let down := Nat.pow 10 (-k).toNat
  let step := up * i.denominator
  let below := i.value * down / step
  let excess := 2 * (i.value * down - below * step)
  match i.holds (below * up) down, i.holds ((below + 1) * up) down with
  | true, true =>
    some (if excess < step || (excess == step && tie.keepsLower below) then below else below + 1)
  | true, false => some below
  | false, true => some (below + 1)
  | false, false => none

/-- The first hit on the grids of `10 ^ (n - 346)` and below. -/
def search (tie : TieRule) (i : Interval) : Nat → Decimal
  | 0 => ⟨0, 0⟩
  | n + 1 =>
    match i.onGrid? tie ((n : Int) - 345) with
    | some digits => ⟨digits, (n : Int) - 345⟩
    | none => search tie i n

end Binary.Interval

def Decimal.shortest (tie : TieRule) (x : Float) : Decimal :=
  let b := Binary.ofFloat x
  if b.mantissa = 0 then ⟨0, 0⟩ else b.interval.search tie 655

example : Decimal.shortest .toEven 0.1 = ⟨1, -1⟩ := by decide +kernel
example : Decimal.shortest .toEven 5e-324 = ⟨5, -324⟩ := by decide +kernel
example : Decimal.shortest .up 1.7976931348623157e308 = ⟨17976931348623157, 292⟩ := by
  decide +kernel
example : Decimal.shortest .toEven 1364.16802978515625 = ⟨13641680297851562, -13⟩ ∧
    Decimal.shortest .up 1364.16802978515625 = ⟨13641680297851563, -13⟩ := by decide +kernel

end Turnstile
