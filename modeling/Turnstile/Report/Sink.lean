import Turnstile.Notice
/-!
Sinks for the events of a guard. A dispatcher hands each event to its sinks in order; a sink that
fails is logged and keeps nothing from the others.
-/
namespace Turnstile

def Event.logRecord : Event → LogRecord
  | .rejected key reason =>
    ⟨.debug, "Call rejected", [("key", key.text), ("tenant", key.tenant), ("reason", reason.name)]⟩
  | .transition key change =>
    ⟨.info, "Circuit breaker state changed",
     [("key", key.text), ("from", change.source.name), ("to", change.target.name)]⟩
  | .outcome key o => ⟨.trace, "Call outcome", [("key", key.text), ("outcome", o.name)]⟩

def Event.hook : Event → String
  | .rejected _ _ => "on_rejected"
  | .transition _ _ => "on_state_transition"
  | .outcome _ _ => "on_outcome"

inductive Sink where
  | recorder
  | logger
  | silent
  | failing
  deriving DecidableEq, Inhabited

namespace Sink

def logs (e : Event) : Sink → List LogRecord
  | .logger => [e.logRecord]
  | .failing => [⟨.warn, "Event sink panicked", [("hook", e.hook)]⟩]
  | .recorder | .silent => []

end Sink

structure Dispatcher where
  sinks : List Sink
  deriving DecidableEq, Inhabited

namespace Dispatcher

def logs (d : Dispatcher) (events : List Event) : List LogRecord :=
  events.flatMap fun e => d.sinks.flatMap (Sink.logs e)

/-- What the recorders among the sinks have kept, each of them all. -/
def recordings (d : Dispatcher) (events : List Event) : List (List Event) :=
  (d.sinks.filter (· == .recorder)).map fun _ => events

def text (d : Dispatcher) : String :=
  s!"EventDispatcher \x7b sinks: {d.sinks.length} \x7d"

end Dispatcher

def Notice.logRecords : Notice → List LogRecord
  | .event e => [e.logRecord]
  | .log r => [r]
  | .registrySize _ _ => []

end Turnstile
