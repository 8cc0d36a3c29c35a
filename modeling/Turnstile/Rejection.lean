import Turnstile.Circuit
import Turnstile.Key
import Turnstile.Status
import Turnstile.Time
/-!
Rejections by a guard and errors of calls: what each is, how it reads and which status it has.
-/
namespace Turnstile

inductive Reason where
  | rateLimited | circuitOpen
  deriving DecidableEq, Inhabited

def Reason.name : Reason → String
  | .rateLimited => "rate_limited"
  | .circuitOpen => "circuit_open"

inductive Rejection where
  | rateLimited (key : Key)
  /-- The circuit of the key is open, or half-open with every probe running. -/
  | circuitOpen (key : Key) (state : Circuit)
  deriving DecidableEq, Inhabited

namespace Rejection

def reason : Rejection → Reason
  | .rateLimited _ => .rateLimited
  | .circuitOpen _ _ => .circuitOpen

def key : Rejection → Key
  | .rateLimited k => k
  | .circuitOpen k _ => k

def code : Rejection → Code
  | .rateLimited _ => .resourceExhausted
  | .circuitOpen _ _ => .unavailable

def status (r : Rejection) : CallStatus := ⟨r.code, .guard⟩

instance : CallFault Rejection := ⟨status⟩

def message : Rejection → String
  | .rateLimited k => s!"rate limit exceeded for {k.text}"
  | .circuitOpen k state => s!"circuit breaker is {state.name} for {k.text}"

end Rejection

inductive IoKind where
  | timedOut | invalidInput | invalidData | interrupted
  | transport
  deriving DecidableEq, Inhabited

def IoKind.status : IoKind → CallStatus
  | .timedOut => .deadlineExceeded
  | .invalidInput | .invalidData => .ofCaller .invalidArgument
  | .interrupted => .cancelled
  | .transport => .ofCallee .unavailable

inductive Failure where
  | status (s : CallStatus)
  | rejection (r : Rejection)
  | elapsed
  | io (kind : IoKind) (text : String)
  | other (text : String)
  deriving DecidableEq, Inhabited

namespace Failure

def message : Failure → String
  | .status s => s.text
  | .rejection r => r.message
  | .elapsed => "deadline has elapsed"
  | .io _ text => text
  | .other text => text

/-- The status of the call that failed so; an error of no known kind is the callee's. -/
def callStatus : Failure → CallStatus
  | .status s => s
  | .rejection r => r.status
  | .elapsed => .deadlineExceeded
  | .io kind _ => kind.status
  | .other _ => .ofCallee .unavailable

instance : CallFault Failure := ⟨callStatus⟩

end Failure

/-- What a caller is told of a call that has no value: its own error is handed on as it is. -/
inductive CallError (ε : Type := CallStatus) where
  | rejected (r : Rejection)
  | deadlineExceeded (key : Key) (deadline : Span)
  | call (e : ε)
  deriving DecidableEq, Inhabited

def deadlineMessage (key : Key) (deadline : Span) : String :=
  s!"call for {key.text} exceeded its {deadline.text} deadline"

namespace CallError

variable {ε : Type}

def message [ToString ε] : CallError ε → String
  | .rejected r => r.message
  | .deadlineExceeded key deadline => deadlineMessage key deadline
  | .call e => toString e

def callStatus [CallFault ε] : CallError ε → CallStatus
  | .rejected r => r.status
  | .deadlineExceeded _ _ => .deadlineExceeded
  | .call e => CallFault.status e

instance [CallFault ε] : CallFault (CallError ε) := ⟨callStatus⟩

def rejection? : CallError ε → Option Rejection
  | .rejected r => some r
  | _ => none

def callError? : CallError ε → Option ε
  | .call e => some e
  | _ => none

end CallError
end Turnstile
