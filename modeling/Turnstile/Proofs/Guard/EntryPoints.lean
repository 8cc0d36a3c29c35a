import Turnstile.Guard.Exchange
import Turnstile.Guard.Stream
import Turnstile.Proofs.Guard.Enter
import Mathlib.Algebra.GroupWithZero.Nat
/-!
The ways to make a call under a guard: with a permit, as a call that gives one answer, as a stream of
items, or as a request with a response. Whichever is taken, a call that ends with the same status at
the same reading of the clock is let in or refused alike, and leaves the guard in the same state.
-/
namespace Turnstile

def Course.Outlasts {γ : Type} (span : Span) : Course γ → Prop
  | .ends after _ => span < after
  | .hangs patience => ∀ t ∈ patience, span ≤ t

namespace Guard

variable {α : Type}

end Guard

namespace GuardedStream

variable {α β ε : Type}

def pollAfter [CallFault ε] (s : GuardedStream β ε) (g : Guard α) :
    List Span → GuardedStream β ε × Guard α
  | [] => (s, g)
  | wait :: waits =>
    let (_, s, g) := s.poll (g.advance wait)
    s.pollAfter g waits

end GuardedStream

def StreamItem.failed {β ε : Type} : StreamItem β ε → Bool
  | .failure _ => true
  | .item _ | .pending => false

namespace GuardedStream

variable {α β ε : Type} {key : Key} {p : Permit} {quiet rest : List (StreamItem β ε)}
  {status : CallStatus} {left : GuardedStream β ε} [CallFault ε]

end GuardedStream

namespace Body

variable {α : Type} {key : Key} {p : Permit} {frames : List Frame}

def pollAfter (b : Body) (g : Guard α) : List Span → Body × Guard α
  | [] => (b, g)
  | wait :: waits =>
    let (_, b, g) := b.poll (g.advance wait)
    b.pollAfter g waits

end Body

/-- A way to make a call, with what the call comes to. Streams and bodies are polled once after each
of some waits, and then dropped. -/
inductive Way (β : Type) (ε : Type := CallStatus) where
  | permit (held : Span) (status : CallStatus)
  | call (work : Work (Except ε β))
  | stream (items : List (StreamItem β ε)) (waits : List Span)
  | exchange (r : Request) (work : Work (Except Failure Response)) (waits : List Span)

namespace Way

variable {β ε : Type} {method : String} {ctx : Context} {deadline : Option Span}

/-- A call made in this way ends with a status when the clock has moved by a span: before its
deadline, or by overrunning it. -/
inductive Ends [CallFault ε] (deadline : Option Span) : Way β ε → Span → CallStatus → Prop
  | permit (held : Span) (status : CallStatus) : Ends deadline (.permit held status) held status
  | call {after : Span} (shift : Span) (result : Except ε β)
      (inTime : deadline.all (after ≤ ·) = true) :
      Ends deadline (.call ⟨shift, .ends after result⟩) shift (.ofResult result)
  | callOverdue {d : Span} {course : Course (Except ε β)} (shift : Span)
      (due : deadline = some d) (late : course.Outlasts d) :
      Ends deadline (.call ⟨shift, course⟩) shift .deadlineExceeded
  | streamEnd {items : List (StreamItem β ε)} {waits : List Span}
      (quiet : ∀ i ∈ items, i.failed = false) (polled : waits.length = items.length + 1) :
      Ends deadline (.stream items waits) waits.sum .ok
  | streamFailure {items : List (StreamItem β ε)} {waits : List Span} (e : ε)
      (more : List (StreamItem β ε)) (quiet : ∀ i ∈ items, i.failed = false)
      (polled : waits.length = items.length + 1) :
      Ends deadline (.stream (items ++ .failure e :: more) waits) waits.sum (CallFault.status e)
  | exchangeFailure {after : Span} (r : Request) (shift : Span) (f : Failure) (waits : List Span)
      (inTime : deadline.all (after ≤ ·) = true) :
      Ends deadline (.exchange r ⟨shift, .ends after (.error f)⟩ waits) shift f.callStatus
  | exchangeBody {after : Span} {response : Response} {waits : List Span} (r : Request)
      (shift : Span) (inTime : deadline.all (after ≤ ·) = true)
      (line : 200 ≤ response.head.line ∧ response.head.line < 300)
      (silent : response.head.headers.first? statusHeader = none)
      (quiet : ∀ f ∈ response.frames, f.finalStatus? = none)
      (polled : waits.length = response.frames.length + 1) :
      Ends deadline (.exchange r ⟨shift, .ends after (.ok response)⟩ waits) (shift + waits.sum) .ok
  | exchangeOverdue {d : Span} {course : Course (Except Failure Response)} (r : Request)
      (shift : Span) (due : deadline = some d) (late : course.Outlasts d) :
      Ends deadline (.exchange r ⟨shift, course⟩ []) shift .deadlineExceeded

inductive Told (β : Type) (ε : Type := CallStatus) where
  | permit (answer : Except Rejection Permit)
  | call (result : CallResult β ε)
  | stream (answer : Except Rejection (GuardedStream β ε))
  | exchange (e : Exchange)

end Way

namespace Guard

variable {α β ε : Type} [Quantity α] [CallFault ε]

/-- What a call that ends with `status` when the clock has moved by `shift` is to leave of a guard. -/
def handle (g : Guard α) (method : String) (ctx : Context) (shift : Span) (status : CallStatus) :
    Option Rejection × Guard α :=
  match g.enter method ctx with
  | (.error r, g) => (some r, g)
  | (.ok p, g) => (none, ((g.advance shift).complete p status).2)

def consume (result : ExchangeResult) (waits : List Span) (g : Guard α) : Guard α :=
  match result with
  | .response _ body =>
    let (left, g) := body.pollAfter g waits
    left.drop g
  | _ => g

/-- Makes a call, and lets go of all that belongs to it. -/
def make (g : Guard α) (method : String) (ctx : Context) : Way β ε → Way.Told β ε × Guard α
  | .permit held status =>
    match g.enter method ctx with
    | (.error r, g) => (.permit (.error r), g)
    | (.ok p, g) => (.permit (.ok p), ((g.advance held).complete p status).2)
  | .call work =>
    let (result, g) := g.call method ctx work
    (.call result, g)
  | .stream items waits =>
    match g.openStream method ctx items with
    | (.error r, g) => (.stream (.error r), g)
    | (.ok s, g) =>
      let (left, g) := s.pollAfter g waits
      (.stream (.ok s), left.drop g)
  | .exchange r work waits =>
    let (e, g) := g.forward r work
    (.exchange e, if e.called then consume e.result waits g else g)

variable {g g' : Guard α} {method : String} {ctx : Context} {way : Way β ε} {shift : Span}
  {status : CallStatus}

end Guard

end Turnstile
