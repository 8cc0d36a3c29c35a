import Turnstile.Breaker.Window
import Turnstile.Circuit
import Turnstile.Outcome
import Turnstile.Time
/-!
The circuit breaker of one key. It has no timer: cooldown and grace are judged when a call asks. Every
change of state starts a new epoch and forgets the admissions of the old one, so that an outcome which
comes late is discarded instead of being counted against the new state.
-/
namespace Turnstile

structure Thresholds where
  /-- Share of failures, in percent, that opens the circuit. -/
  failureRate : Float
  /-- Share of slow calls, in percent, that opens the circuit. -/
  slowCallRate : Float
  /-- A call that takes longer is slow; with no limit none is. -/
  slowCallMs : Option Nat
  windowSize : Nat
  minimumCalls : Nat
  cooldownMs : Nat
  probePermits : Nat
  successThreshold : Nat
  probeGraceMs : Nat
  deriving DecidableEq

namespace Thresholds

def standard : Thresholds where
  failureRate := 50
  slowCallRate := 100
  slowCallMs := none
  windowSize := 60
  minimumCalls := 10
  cooldownMs := 60000
  probePermits := 5
  successThreshold := 3
  probeGraceMs := 30000

instance : Inhabited Thresholds := ⟨standard⟩

def cooldown (t : Thresholds) : Span := .ofMillis t.cooldownMs
def probeGrace (t : Thresholds) : Span := .ofMillis t.probeGraceMs
def slowCall (t : Thresholds) : Option Span := t.slowCallMs.map .ofMillis

def requiredSamples (t : Thresholds) : Nat := max 1 (min t.minimumCalls t.windowSize)

/-- The sample of a counted call. A call that failed is not slow besides. -/
def sample (t : Thresholds) (outcome : Outcome) (elapsed : Span) : Sample :=
  let failure := outcome == .failure
  { failure, slow := !failure && t.slowCall.any (· < elapsed) }

end Thresholds

structure Ticket where
  epoch : Nat
  number : Nat
  deriving DecidableEq, Inhabited

structure InFlight where
  number : Nat
  probe : Bool
  issuedAt : Instant
  deriving DecidableEq, Inhabited

inductive Verdict where
  | admitted (ticket : Ticket) (probe : Bool)
  | rejected (state : Circuit) (denial : Denial)
  deriving DecidableEq, Inhabited

inductive Recorded where
  | applied
  /-- The ticket is of an earlier epoch, or its outcome was recorded before. -/
  | discarded
  deriving DecidableEq, Inhabited

structure Breaker where
  state : Circuit
  window : Window
  thresholds : Thresholds
  transitionedAt : Instant
  lastAccess : Instant
  epoch : Nat
  /-- The number of the next admission; never reset. -/
  nextNumber : Nat
  /-- Admissions of this epoch whose outcome is still out, the oldest first. -/
  inFlight : List InFlight
  probeSuccesses : Nat
  deriving DecidableEq

namespace Breaker

def fresh (t : Thresholds) (now : Instant) : Breaker where
  state := .closed
  window := .ofSize t.windowSize
  thresholds := t
  transitionedAt := now
  lastAccess := now
  epoch := 0
  nextNumber := 0
  inFlight := []
  probeSuccesses := 0

instance : Inhabited Breaker := ⟨fresh .standard 0⟩

def moveTo (target : Circuit) (now : Instant) (b : Breaker) : Breaker :=
  { b with
    state := target
    transitionedAt := now
    epoch := b.epoch + 1
    inFlight := []
    probeSuccesses := 0
    window := b.window.clear }

def transition (target : Circuit) (now : Instant) (b : Breaker) : Transition × Breaker :=
  (⟨b.state, target⟩, b.moveTo target now)

def issue (probe : Bool) (now : Instant) (b : Breaker) : Verdict × Breaker :=
  (.admitted ⟨b.epoch, b.nextNumber⟩ probe,
   { b with
     nextNumber := b.nextNumber + 1
     inFlight := b.inFlight ++ [⟨b.nextNumber, probe, now⟩] })

def adopt (t : Thresholds) (b : Breaker) : Breaker :=
  { b with thresholds := t, window := b.window.resize t.windowSize }

def shouldTrip (b : Breaker) : Bool :=
  b.thresholds.requiredSamples ≤ b.window.length &&
    (b.thresholds.failureRate ≤ b.window.failureRate ||
     b.thresholds.slowCallRate ≤ b.window.slowRate)

def probes (b : Breaker) : List InFlight := b.inFlight.filter (·.probe)

def probeOverdue (now : Instant) (b : Breaker) : Bool :=
  b.probes.any fun f => b.thresholds.probeGrace ≤ now.since f.issuedAt

/-- Asks to let a call pass under thresholds `t`, which the breaker adopts. -/
def acquire (t : Thresholds) (now : Instant) (b : Breaker) :
    Verdict × Option Transition × Breaker :=
  let b := { b.adopt t with lastAccess := now }
  match b.state with
  | .closed =>
    let (verdict, b) := b.issue false now
    (verdict, none, b)
  | .open =>
    if t.cooldown ≤ now.since b.transitionedAt then
      let (change, b) := b.transition .halfOpen now
      let (verdict, b) := b.issue true now
      (verdict, some change, b)
    else (.rejected .open .open, none, b)
  | .halfOpen =>
    if b.probeOverdue now then
      let (change, b) := b.transition .open now
      (.rejected .open .open, some change, b)
    else if b.probes.length < t.probePermits then
      let (verdict, b) := b.issue true now
      (verdict, none, b)
    else (.rejected .halfOpen .probePermitExhausted, none, b)

def count (call : InFlight) (outcome : Outcome) (elapsed : Span) (now : Instant) (b : Breaker) :
    Option Transition × Breaker :=
  match b.state, outcome with
  | _, .ignored => (none, b)
  | .closed, outcome =>
    let b := { b with window := b.window.push (b.thresholds.sample outcome elapsed) }
    if b.shouldTrip then
      let (change, b) := b.transition .open now
      (some change, b)
    else (none, b)
  | .halfOpen, .failure =>
    if call.probe then
      let (change, b) := b.transition .open now
      (some change, b)
    else (none, b)
  | .halfOpen, .success =>
    if call.probe then
      let b := { b with probeSuccesses := b.probeSuccesses + 1 }
      if b.thresholds.successThreshold ≤ b.probeSuccesses then
        let (change, b) := b.transition .closed now
        (some change, b)
      else (none, b)
    else (none, b)
  | .open, _ => (none, b)

/-- The admission that `ticket` names, if its outcome is still out. -/
def outstanding? (ticket : Ticket) (b : Breaker) : Option InFlight :=
  if ticket.epoch = b.epoch then b.inFlight.find? (·.number == ticket.number) else none

def record (ticket : Ticket) (outcome : Outcome) (elapsed : Span) (now : Instant) (b : Breaker) :
    Recorded × Option Transition × Breaker :=
  let b := { b with lastAccess := now }
  match b.outstanding? ticket with
  | none => (.discarded, none, b)
  | some call =>
    let b := { b with inFlight := b.inFlight.filter (·.number != ticket.number) }
    (.applied, b.count call outcome elapsed now)

end Breaker
end Turnstile
