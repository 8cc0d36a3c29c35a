import Turnstile.Time
/-!
The numbers in which tokens are counted. A running limiter counts in floating point; the same
arithmetic over the rationals says what it approximates.
-/
namespace Turnstile

class Quantity (α : Type) extends Add α, Sub α, Mul α, Div α, LT α where
  decLt : DecidableLT α
  ofInt : Int → α
  seconds : Span → α
  /-- How far a balance may fall short of a price that it still covers. -/
  slack : α

instance Quantity.decidableLT {α : Type} [Quantity α] : DecidableLT α := Quantity.decLt

namespace Quantity

variable {α : Type} [Quantity α]

def clamp (lo hi x : α) : α := if x < lo then lo else if hi < x then hi else x

def floorZero (x : α) : α := if x < ofInt 0 then ofInt 0 else x

end Quantity

/-- Seconds and the nanoseconds beside them are rounded each on their own. -/
instance : Quantity Float where
  decLt := inferInstance
  ofInt := Float.ofInt
  seconds s := Float.ofNat s.secs + Float.ofNat s.subsecNanos / 1e9
  slack := 1e-9

instance : Quantity Rat where
  decLt := inferInstance
  ofInt n := n
  seconds s := (s : Rat) / 1000000000
  slack := 1 / 1000000000

end Turnstile
