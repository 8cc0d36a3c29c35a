/-!
From decimals to floats.
-/
namespace Turnstile.Decimal

def nearest (digits : Nat) (exponent : Int) : Float :=
  Float.ofScientific digits (exponent < 0) exponent.natAbs

example : nearest 15 (-1) = 1.5 ∧ nearest 3 2 = 300 := by decide +kernel

end Turnstile.Decimal
