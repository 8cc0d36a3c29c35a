/-!
The canonical status codes of remote calls, with their numbers on the wire and their names.
-/
namespace Turnstile

inductive Code where
  | ok | cancelled | unknown | invalidArgument | deadlineExceeded | notFound | alreadyExists
  | permissionDenied | resourceExhausted | failedPrecondition | aborted | outOfRange
  | unimplemented | internal | unavailable | dataLoss | unauthenticated
  deriving DecidableEq, Inhabited

namespace Code

/-- All codes; the one with number `i` stands at place `i`. -/
def all : List Code :=
  [.ok, .cancelled, .unknown, .invalidArgument, .deadlineExceeded, .notFound, .alreadyExists,
   .permissionDenied, .resourceExhausted, .failedPrecondition, .aborted, .outOfRange,
   .unimplemented, .internal, .unavailable, .dataLoss, .unauthenticated]

def number : Code → Nat
  | .ok => 0 | .cancelled => 1 | .unknown => 2 | .invalidArgument => 3 | .deadlineExceeded => 4
  | .notFound => 5 | .alreadyExists => 6 | .permissionDenied => 7 | .resourceExhausted => 8
  | .failedPrecondition => 9 | .aborted => 10 | .outOfRange => 11 | .unimplemented => 12
  | .internal => 13 | .unavailable => 14 | .dataLoss => 15 | .unauthenticated => 16

/-- The code with a wire number; a number that is not assigned means `unknown`. -/
def ofNumber : Int → Code
  | .ofNat n => (all[n]?).getD .unknown
  | .negSucc _ => .unknown

def name : Code → String
  | .ok => "OK" | .cancelled => "CANCELLED" | .unknown => "UNKNOWN"
  | .invalidArgument => "INVALID_ARGUMENT" | .deadlineExceeded => "DEADLINE_EXCEEDED"
  | .notFound => "NOT_FOUND" | .alreadyExists => "ALREADY_EXISTS"
  | .permissionDenied => "PERMISSION_DENIED" | .resourceExhausted => "RESOURCE_EXHAUSTED"
  | .failedPrecondition => "FAILED_PRECONDITION" | .aborted => "ABORTED"
  | .outOfRange => "OUT_OF_RANGE" | .unimplemented => "UNIMPLEMENTED" | .internal => "INTERNAL"
  | .unavailable => "UNAVAILABLE" | .dataLoss => "DATA_LOSS"
  | .unauthenticated => "UNAUTHENTICATED"

theorem ofNumber_number (c : Code) : ofNumber c.number = c := by cases c <;> rfl

def ofName? (text : String) : Option Code := all.find? fun c => c.name == text

def parse? (text : String) : Option Code :=
  all.find? fun c => c.name.toLower == text.toLower

def sorted (codes : List Code) : List Code := all.filter codes.contains

end Code

def unknownCodeMessage (text : String) : String := s!"unknown status code: {text}"

end Turnstile
