import Turnstile.Outcome
import Turnstile.Rejection
/-!
What guards and registries report while they work: events about calls, log records, and the number
of keys that a registry holds.
-/
namespace Turnstile

inductive Event where
  | rejected (key : Key) (reason : Reason)
  | transition (key : Key) (change : Transition)
  | outcome (key : Key) (outcome : Outcome)
  deriving DecidableEq, Inhabited

def Event.key : Event → Key
  | .rejected k _ => k
  | .transition k _ => k
  | .outcome k _ => k

inductive Level where
  | trace | debug | info | warn | error
  deriving DecidableEq, Inhabited

def Level.name : Level → String
  | .trace => "TRACE"
  | .debug => "DEBUG"
  | .info => "INFO"
  | .warn => "WARN"
  | .error => "ERROR"

structure LogRecord where
  level : Level
  message : String
  fields : List (String × String)
  deriving DecidableEq, Inhabited

def LogRecord.line (r : LogRecord) : String :=
  r.fields.foldl (fun text f => s!"{text} {f.1}={f.2}") s!"{r.level.name} {r.message}"

inductive Notice where
  | event (e : Event)
  | log (r : LogRecord)
  | registrySize (registry : String) (keys : Nat)
  deriving DecidableEq, Inhabited

namespace Notice

def event? : Notice → Option Event
  | .event e => some e
  | _ => none

def events (notices : List Notice) : List Event := notices.filterMap event?

def logged (level : Level) (message : String) (fields : List (String × String)) : Notice :=
  .log ⟨level, message, fields⟩

end Notice
end Turnstile
