import Turnstile.Code
import Turnstile.Headers
import Turnstile.Text.Integer
/-!
Terminal statuses of calls: a code together with the side to which it is attributed. A status is
read from the fields of a response where they carry one, and from the line of the response else.
-/
namespace Turnstile

inductive Origin where
  /-- The calling side: a cancellation, arguments that it built wrongly. -/
  | caller
  | callee
  | guard
  deriving DecidableEq, Inhabited

def Origin.label : Origin → String
  | .caller => "Caller"
  | .callee => "Callee"
  | .guard => "Guard"

structure CallStatus where
  code : Code
  origin : Origin
  deriving DecidableEq, Inhabited

namespace CallStatus

def ofCallee (code : Code) : CallStatus := ⟨code, .callee⟩
def ofCaller (code : Code) : CallStatus := ⟨code, .caller⟩

def ok : CallStatus := ofCallee .ok

def cancelled : CallStatus := ofCaller .cancelled

def deadlineExceeded : CallStatus := ofCallee .deadlineExceeded

def text (s : CallStatus) : String := s!"{s.code.name} ({s.origin.label})"

instance : ToString CallStatus := ⟨text⟩

example : text cancelled = "CANCELLED (Caller)" := by decide +kernel

end CallStatus

/-- Errors that tell the status of the call that ended with them. -/
class CallFault (ε : Type) where
  status : ε → CallStatus

instance : CallFault CallStatus := ⟨id⟩

def CallStatus.ofResult {β ε : Type} [CallFault ε] : Except ε β → CallStatus
  | .ok _ => ok
  | .error e => CallFault.status e

def statusHeader : String := "grpc-status"

/-- The status code in a header or trailer map: the first value of its field, if that is readable
and, without the blanks around it, a signed 32-bit numeral. -/
def Headers.statusCode? (h : Headers) : Option Code :=
  ((h.readable? statusHeader).bind fun v => Text.int32? (Text.trimmed v.toList)).map Code.ofNumber

def Code.ofResponseLine (line : Nat) : Code :=
  match line with
  | 400 => .invalidArgument
  | 401 => .unauthenticated
  | 403 => .permissionDenied
  | 404 => .notFound
  | 408 | 504 => .deadlineExceeded
  | 409 => .aborted
  | 429 => .resourceExhausted
  | 499 => .cancelled
  | 501 => .unimplemented
  | 502 | 503 => .unavailable
  | n => if 100 ≤ n && n ≤ 399 then .ok else if 500 ≤ n && n ≤ 599 then .internal else .unknown

/-- The status of a response head. A status code among the fields wins over the line; a line saying
that the client closed the request is a cancellation by the caller. -/
def CallStatus.ofResponse (line : Nat) (fields : Headers) : CallStatus :=
  match fields.statusCode? with
  | some code => ofCallee code
  | none =>
    match Code.ofResponseLine line with
    | .cancelled => cancelled
    | code => ofCallee code

end Turnstile
