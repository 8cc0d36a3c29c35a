import Turnstile.Guard.Basic
/-!
Calls that give one answer. Work is started when the call has been admitted, and its result is waited
for until the deadline of the policy. The time that a caller waits is not that of the guard's clock.
-/
namespace Turnstile

inductive Course (β : Type) where
  | ends (after : Span) (result : β)
  /-- The work does not end: the caller gives up after some time, or waits as long as it may. -/
  | hangs (patience : Option Span)

structure Work (β : Type) where
  /-- By how much the clock of the guard has moved when waiting begins. -/
  clockShift : Span
  course : Course β

inductive Ending (β : Type) where
  | finished (result : β)
  | overdue
  | abandoned

/-- Waits for work. A result that comes right at the deadline is in time. -/
def Course.wait {β : Type} (deadline : Option Span) : Course β → Ending β
  | .ends after result => if deadline.all (after ≤ ·) then .finished result else .overdue
  | .hangs patience =>
    match deadline with
    | none => .abandoned
    | some d => if patience.any (· < d) then .abandoned else .overdue

inductive CallResult (β : Type) (ε : Type := CallStatus) where
  | value (b : β)
  | error (e : CallError ε)
  | abandoned

def CallResult.ran {β ε : Type} : CallResult β ε → Bool
  | .error (.rejected _) => false
  | _ => true

namespace Guard

variable {α β ε : Type} [CallFault ε]

def settle (g : Guard α) (p : Permit) : Ending (Except ε β) → CallResult β ε × Guard α
  | .finished result =>
    let g := (g.complete p (.ofResult result)).2
    match result with
    | .ok b => (.value b, g)
    | .error e => (.error (.call e), g)
  | .overdue =>
    let g := (g.complete p .deadlineExceeded).2
    (.error (.deadlineExceeded p.key (p.policy.deadline.getD 0)), g)
  | .abandoned => (.abandoned, g.abandon p)

def await (g : Guard α) (p : Permit) (w : Work (Except ε β)) : CallResult β ε × Guard α :=
  (g.advance w.clockShift).settle p (w.course.wait p.policy.deadline)

/-- Makes a call. The work of a call that is turned away is not started. -/
def call [Quantity α] (g : Guard α) (method : String) (ctx : Context)
    (w : Work (Except ε β)) : CallResult β ε × Guard α :=
  match g.enter method ctx with
  | (.error r, g) => (.error (.rejected r), g)
  | (.ok p, g) => g.await p w

end Guard
end Turnstile
