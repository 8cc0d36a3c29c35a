/-!
The window of recent samples that a breaker judges by. It keeps the most recent samples up to its
size, and the numbers of failures and of slow calls among them.
-/
namespace Turnstile

structure Sample where
  failure : Bool
  slow : Bool
  deriving DecidableEq, Inhabited

/-- Recent samples, the newest first, with running counts. -/
structure Window where
  size : Nat
  samples : List Sample
  failures : Nat
  slow : Nat
  deriving DecidableEq, Inhabited

/-- A share in percent; of nothing it is zero. -/
def percentage (part total : Nat) : Float :=
  if total = 0 then 0 else Float.ofNat part * 100 / Float.ofNat total

namespace Window

def ofSize (size : Nat) : Window where
  size := max size 1
  samples := []
  failures := 0
  slow := 0

def length (w : Window) : Nat := w.samples.length

def dropOldest (w : Window) : Window :=
  match w.samples.getLast? with
  | none => w
  | some old =>
    { w with
      samples := w.samples.dropLast
      failures := w.failures - old.failure.toNat
      slow := w.slow - old.slow.toNat }

def push (w : Window) (s : Sample) : Window :=
  let w := if w.length = w.size then w.dropOldest else w
  { w with
    samples := s :: w.samples
    failures := w.failures + s.failure.toNat
    slow := w.slow + s.slow.toNat }

def dropOldestN : Nat → Window → Window
  | 0, w => w
  | n + 1, w => dropOldestN n w.dropOldest

def resize (w : Window) (size : Nat) : Window :=
  let size := max size 1
  dropOldestN (w.length - size) { w with size }

def clear (w : Window) : Window := { w with samples := [], failures := 0, slow := 0 }

def failureRate (w : Window) : Float := percentage w.failures w.length
def slowRate (w : Window) : Float := percentage w.slow w.length

end Window
end Turnstile
