import Turnstile.Breaker.Basic
import Turnstile.Notice
import Turnstile.Registry
/-!
Circuit breakers by key. An admitted call holds a permit of the breaker that admitted it, and a
sweep leaves a held breaker alone. Breakers are numbered as they are made, so that a permit is never
taken for one of a later breaker of the same key.
-/
namespace Turnstile

structure BreakerEntry where
  breaker : Breaker
  serial : Nat
  holders : Nat
  deriving DecidableEq, Inhabited

structure BreakerPermit where
  key : Key
  serial : Nat
  ticket : Ticket
  probe : Bool
  deriving DecidableEq, Inhabited

inductive BreakerAdmission where
  | admitted (permit : BreakerPermit)
  | rejected (state : Circuit) (denial : Denial)
  deriving DecidableEq, Inhabited

structure Breakers where
  registry : Registry BreakerEntry
  nextSerial : Nat
  deriving Inhabited

namespace Breakers

def label : String := "circuit_breaker"

def empty : Breakers := ⟨.empty, 0⟩

def size (r : Breakers) : Nat := r.registry.size

def entry? (r : Breakers) (key : Key) : Option BreakerEntry := r.registry.get? key

def breaker? (r : Breakers) (key : Key) : Option Breaker := (r.entry? key).map (·.breaker)

def state? (r : Breakers) (key : Key) : Option Circuit := (r.breaker? key).map (·.state)

def set (r : Breakers) (key : Key) (entry : BreakerEntry) : Breakers :=
  { r with registry := r.registry.insert key entry }

def entryFor (r : Breakers) (key : Key) (t : Thresholds) (now : Instant) :
    BreakerEntry × Breakers :=
  match r.entry? key with
  | some entry => (entry, r)
  | none => (⟨.fresh t now, r.nextSerial, 0⟩, { r with nextSerial := r.nextSerial + 1 })

def announced (key : Key) (change : Option Transition) : List Notice :=
  change.toList.map fun c => .event (.transition key c)

def rejectedNotice (key : Key) (state : Circuit) (denial : Denial) : Notice :=
  .logged .debug "Circuit breaker rejected call"
    [("key", key.text), ("state", state.name), ("denial", denial.label)]

def staleNotice (key : Key) (ticket : Ticket) (outcome : Outcome) : Notice :=
  .logged .debug "Discarded stale outcome"
    [("key", key.text), ("outcome", outcome.name), ("epoch", toString ticket.epoch)]

def acquire (r : Breakers) (key : Key) (t : Thresholds) (now : Instant) :
    BreakerAdmission × List Notice × Breakers :=
  let (entry, r) := r.entryFor key t now
  let (verdict, change, breaker) := entry.breaker.acquire t now
  match verdict with
  | .admitted ticket probe =>
    (.admitted ⟨key, entry.serial, ticket, probe⟩, announced key change,
     r.set key { entry with breaker, holders := entry.holders + 1 })
  | .rejected state denial =>
    (.rejected state denial, announced key change ++ [rejectedNotice key state denial],
     r.set key { entry with breaker })

def report (key : Key) (ticket : Ticket) (outcome : Outcome) (elapsed : Span) (now : Instant)
    (entry : BreakerEntry) : Recorded × List Notice × BreakerEntry :=
  let (recorded, change, breaker) := entry.breaker.record ticket outcome elapsed now
  let stale := if recorded = .discarded then [staleNotice key ticket outcome] else []
  (recorded, stale ++ announced key change, { entry with breaker })

/-- The entry of the breaker that gave out `permit`. -/
def holder? (r : Breakers) (permit : BreakerPermit) : Option BreakerEntry :=
  (r.entry? permit.key).filter (·.serial == permit.serial)

def complete (r : Breakers) (permit : BreakerPermit) (outcome : Outcome) (elapsed : Span)
    (now : Instant) : Recorded × List Notice × Breakers :=
  match r.holder? permit with
  | none => (.discarded, [staleNotice permit.key permit.ticket outcome], r)
  | some entry =>
    let (recorded, notices, entry) := report permit.key permit.ticket outcome elapsed now entry
    (recorded, notices, r.set permit.key { entry with holders := entry.holders - 1 })

/-- Gives a permit back without an outcome, which is recorded as ignored and announced to nobody. -/
def drop (r : Breakers) (permit : BreakerPermit) (now : Instant) : Breakers :=
  match r.holder? permit with
  | none => r
  | some entry =>
    let (_, _, breaker) := entry.breaker.record permit.ticket .ignored 0 now
    r.set permit.key { entry with breaker, holders := entry.holders - 1 }

def recordOutcome (r : Breakers) (key : Key) (ticket : Ticket) (outcome : Outcome)
    (elapsed : Span) (now : Instant) : Recorded × List Notice × Breakers :=
  match r.entry? key with
  | none => (.discarded, [], r)
  | some entry =>
    let (recorded, notices, entry) := report key ticket outcome elapsed now entry
    (recorded, notices, r.set key entry)

def tracking : Registry.Tracking BreakerEntry where
  lastAccess e := e.breaker.lastAccess
  held e := e.holders != 0

def sweep (r : Breakers) (now : Instant) (retention : Retention) : Breakers × Nat :=
  let (registry, removed) :=
    Registry.sweep tracking now retention.idleEviction retention.maxKeys r.registry
  ({ r with registry }, removed)

end Breakers
end Turnstile
