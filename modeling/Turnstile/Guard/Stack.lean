import Turnstile.Guard.Exchange
/-!
Guards one inside the other, around a service. A request goes through the guards from the outside
until one turns it away or the service has it; the answer goes back through the guards that have let
the request pass. A guard whose deadline comes first answers itself and gives up what is inside it.
-/
namespace Turnstile

/-- A guard that has let a request pass and waits for what is inside it. -/
structure Layer (α : Type) where
  guard : Guard α
  permit : Permit

namespace Layer

variable {α : Type}

def deadline (l : Layer α) : Option Span := l.permit.policy.deadline

def advance (l : Layer α) (span : Span) : Layer α := { l with guard := l.guard.advance span }

def abandon (l : Layer α) : ExchangeResult × Guard α := (.abandoned, l.guard.abandon l.permit)

/-- How the work inside a layer goes on for those outside of it: it ends at the deadline, if it has
not ended by then. -/
def bound (l : Layer α) (c : Course (Except Failure Response)) : Course (Except Failure Response) :=
  match c.wait l.deadline with
  | .overdue =>
    let d := l.deadline.getD 0
    .ends d (.ok ⟨.ofDeadline l.permit.key d, []⟩)
  | .finished _ | .abandoned => c

end Layer

namespace Stack

/-- How far a request comes, with the layers that have let it pass, the outermost first. -/
inductive Descent (α : Type) where
  | through (layers : List (Layer α))
  /-- A guard has turned the request away, and those inside it have not been asked. -/
  | stopped (layers : List (Layer α)) (r : Rejection) (refusing : Guard α)
    (inside : List (Guard α))

/-- What comes of the work inside the layers: the result of each layer, and its guard. -/
def ascend {α : Type} :
    List (Layer α) → Course (Except Failure Response) → List (ExchangeResult × Guard α)
  | [], _ => []
  | l :: inside, c =>
    let ending := (inside.foldr Layer.bound c).wait l.deadline
    l.guard.respond l.permit ending ::
      match ending with
      | .finished _ => ascend inside c
      | .overdue | .abandoned => inside.map Layer.abandon

/-- What a request comes to: the results of the guards that were asked, and all guards after it. -/
structure Passage (α : Type) where
  called : Bool
  results : List ExchangeResult
  guards : List (Guard α)

variable {α : Type} [Quantity α]

def descend (r : Request) : List (Guard α) → Descent α
  | [] => .through []
  | g :: inside =>
    match g.enter r.path (.headers r.headers) with
    | (.error rejection, g) => .stopped [] rejection g inside
    | (.ok p, g) =>
      match descend r inside with
      | .through layers => .through (⟨g, p⟩ :: layers)
      | .stopped layers rejection refusing inside =>
        .stopped (⟨g, p⟩ :: layers) rejection refusing inside

def forward (gs : List (Guard α)) (r : Request) (w : Work (Except Failure Response)) : Passage α :=
  match descend r gs with
  | .through layers =>
    let answers := ascend (layers.map (·.advance w.clockShift)) w.course
    ⟨true, answers.map (·.1), answers.map (·.2)⟩
  | .stopped layers rejection refusing inside =>
    let head := ResponseHead.ofRejection rejection
    let answers := ascend layers (.ends 0 (.ok ⟨head, []⟩))
    ⟨false, answers.map (·.1) ++ [.response head ⟨rejection.key, [], none⟩],
     answers.map (·.2) ++ refusing :: inside⟩

def exchange (gs : List (Guard α)) (r : Request) (s : Service) : Except Failure (Passage α) :=
  match s.notReady with
  | some f => .error f
  | none => .ok (forward gs r s.work)

theorem ascend_singleton {α : Type} (l : Layer α) (c : Course (Except Failure Response)) :
    ascend [l] c = [l.guard.respond l.permit (c.wait l.deadline)] := by
  simp only [ascend, List.foldr_nil, List.map_nil]
  split <;> rfl

/-- With one guard this is the exchange of that guard. -/
theorem forward_singleton (g : Guard α) (r : Request) (w : Work (Except Failure Response)) :
    let e := g.forward r w
    forward [g] r w = ⟨e.1.called, [e.1.result], [e.2]⟩ := by
  obtain ⟨answer, g', he⟩ : ∃ answer g', g.enter r.path (.headers r.headers) = (answer, g') :=
    ⟨_, _, rfl⟩
  cases answer with
  | error rejection =>
    simp only [forward, descend, Guard.forward, he]
    rfl
  | ok p =>
    simp only [forward, descend, Guard.forward, he, List.map_cons, List.map_nil, ascend_singleton]
    rfl

end Stack
end Turnstile
