/-!
Instants and spans of time in whole nanoseconds. Both are natural numbers: an instant counts from
the origin of its clock, and the time between two instants is never negative.
-/
namespace Turnstile

/-- A point in time, in nanoseconds since the origin of the clock. -/
abbrev Instant := Nat

abbrev Span := Nat

/-- Time passed at `now` since `past`; zero when `past` lies ahead. -/
def Instant.since (now past : Instant) : Span := now - past

namespace Span

def ofMillis (n : Nat) : Span := n * 1000000
def ofSecs (n : Nat) : Span := n * 1000000000

def secs (s : Span) : Nat := s / 1000000000

def subsecNanos (s : Span) : Nat := s % 1000000000

def paddedDigits (width n : Nat) : List Char :=
  let digits := Nat.toDigits 10 n
  List.replicate (width - digits.length) '0' ++ digits

def fractionText (width n : Nat) : String :=
  if n = 0 then ""
  else "." ++ String.ofList ((paddedDigits width n).reverse.dropWhile (· == '0')).reverse

/-- The span in the largest unit that it fills, with as many places as it needs. -/
def text (s : Span) : String :=
  if s ≥ 1000000000 then s!"{s / 1000000000}{fractionText 9 (s % 1000000000)}s"
  else if s ≥ 1000000 then s!"{s / 1000000}{fractionText 6 (s % 1000000)}ms"
  else if s ≥ 1000 then s!"{s / 1000}{fractionText 3 (s % 1000)}µs"
  else s!"{s}ns"

example : text (ofMillis 1500) = "1.5s" := by decide +kernel
example : text 1500 = "1.5µs" := by decide +kernel
example : text 61001000000 = "61.001s" := by decide +kernel

end Span
end Turnstile
