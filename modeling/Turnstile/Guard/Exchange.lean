import Turnstile.Guard.Call
/-!
Requests and responses under a guard. A call that is turned away, or that overruns its deadline, is
answered by the guard with a final head. Any other response is passed on as it is: its head completes
the call if it is final, and the body does otherwise.
-/
namespace Turnstile

/-- The field that says why a guard answered in place of the service. -/
def rejectionHeader : String := "x-guard-rejection"

structure Request where
  target : String
  headers : Headers
  deriving DecidableEq, Inhabited

/-- The part of a target from its path on: all of it after a slash or as a star, and what follows the
authority after a scheme, which may be empty. A bare authority has none. -/
def pathOnwards? (target : List Char) : Option (List Char) :=
  let afterAuthority (cs : List Char) := cs.dropWhile fun c => c ≠ '/' && c ≠ '?' && c ≠ '#'
  if target = ['*'] ∨ "/".toList.isPrefixOf target then some target
  else
    let rest := target.dropWhile (· ≠ ':')
    if "://".toList.isPrefixOf rest then some (afterAuthority (rest.drop 3)) else none

def Request.path (r : Request) : String :=
  match pathOnwards? r.target.toList with
  | none => ""
  | some cs =>
    let path := cs.takeWhile fun c => c ≠ '?' && c ≠ '#'
    if path.isEmpty then "/" else String.ofList path

example : Request.path ⟨"http://host?q", .empty⟩ = "/" := by decide +kernel
example : Request.path ⟨"/a/b?c#d", .empty⟩ = "/a/b" := by decide +kernel

inductive Frame where
  | data (text : String)
  | trailers (fields : Headers)
  | failure (f : Failure)
  | pending
  deriving DecidableEq

namespace Frame

def size : Frame → Nat
  | .data text => text.utf8ByteSize
  | _ => 0

/-- The status that a frame completes its call with, if it does. Trailers without a status say that
all went well. -/
def finalStatus? : Frame → Option CallStatus
  | .data _ | .pending => none
  | .trailers fields => some (.ofCallee (fields.statusCode?.getD .ok))
  | .failure _ => some (.ofCallee .unavailable)

end Frame

structure ResponseHead where
  line : Nat
  headers : Headers
  deriving DecidableEq, Inhabited

namespace ResponseHead

def isFinal (h : ResponseHead) : Bool :=
  h.headers.statusCode?.isSome || !(200 ≤ h.line && h.line < 300)

/-- The status in a final head. The answer of another guard says nothing about the callee. -/
def finalStatus (h : ResponseHead) : CallStatus :=
  if h.headers.contains rejectionHeader then
    ⟨h.headers.statusCode?.getD .unavailable, .guard⟩
  else .ofResponse h.line h.headers

def ofStatus (code : Code) (message : String) (more : List (String × String)) : ResponseHead where
  line := 200
  headers := .ofList <|
    [("content-type", "application/grpc"), (statusHeader, toString code.number)] ++
    (if isHeaderText message then [("grpc-message", message)] else []) ++ more

def ofRejection (r : Rejection) : ResponseHead :=
  ofStatus r.code r.message [(rejectionHeader, r.reason.name)]

def ofDeadline (key : Key) (deadline : Span) : ResponseHead :=
  ofStatus .deadlineExceeded (deadlineMessage key deadline) []

example : (ofRejection (.rateLimited ⟨"k"⟩)).isFinal = true := by decide +kernel

end ResponseHead

structure Response where
  head : ResponseHead
  frames : List Frame
  deriving DecidableEq, Inhabited

structure Service where
  notReady : Option Failure
  work : Work (Except Failure Response)

structure Body where
  key : Key
  frames : List Frame
  permit : Option Permit
  deriving DecidableEq

inductive PolledFrame where
  | frame (f : Frame)
  | finished
  deriving DecidableEq

namespace Body

variable {α : Type}

def atEnd (b : Body) : Bool := b.frames.isEmpty

def remaining (b : Body) : Nat := b.frames.foldr (·.size + ·) 0

def finish (b : Body) (status : CallStatus) (g : Guard α) : Body × Guard α :=
  match b.permit with
  | none => (b, g)
  | some p => ({ b with permit := none }, (g.complete p status).2)

def poll (b : Body) (g : Guard α) : PolledFrame × Body × Guard α :=
  match b.frames with
  | [] => (.finished, b.finish .ok g)
  | f :: rest =>
    let b := { b with frames := rest }
    match f.finalStatus? with
    | none => (.frame f, b, g)
    | some status => (.frame f, b.finish status g)

def drop (b : Body) (g : Guard α) : Guard α :=
  match b.permit with
  | none => g
  | some p => g.abandon p

end Body

inductive ExchangeResult where
  | response (head : ResponseHead) (body : Body)
  | failure (f : Failure)
  | abandoned

structure Exchange where
  called : Bool
  result : ExchangeResult

namespace Guard

variable {α : Type}

def passOn (g : Guard α) (p : Permit) (r : Response) : ExchangeResult × Guard α :=
  if r.head.isFinal then
    let g := (g.complete p r.head.finalStatus).2
    (.response r.head ⟨p.key, r.frames, none⟩, g)
  else (.response r.head ⟨p.key, r.frames, some p⟩, g)

def respond (g : Guard α) (p : Permit) :
    Ending (Except Failure Response) → ExchangeResult × Guard α
  | .finished (.ok r) => g.passOn p r
  | .finished (.error f) => (.failure f, (g.complete p f.callStatus).2)
  | .overdue =>
    let g := (g.complete p .deadlineExceeded).2
    (.response (.ofDeadline p.key (p.policy.deadline.getD 0)) ⟨p.key, [], none⟩, g)
  | .abandoned => (.abandoned, g.abandon p)

def awaitResponse (g : Guard α) (p : Permit) (w : Work (Except Failure Response)) :
    ExchangeResult × Guard α :=
  (g.advance w.clockShift).respond p (w.course.wait p.policy.deadline)

def forward [Quantity α] (g : Guard α) (r : Request) (w : Work (Except Failure Response)) :
    Exchange × Guard α :=
  match g.enter r.path (.headers r.headers) with
  | (.error rejection, g) =>
    (⟨false, .response (.ofRejection rejection) ⟨rejection.key, [], none⟩⟩, g)
  | (.ok p, g) =>
    let (result, g) := g.awaitResponse p w
    (⟨true, result⟩, g)

/-- One request to a service. A service that is not ready is not called, and no call is admitted. -/
def exchange [Quantity α] (g : Guard α) (r : Request) (s : Service) : Exchange × Guard α :=
  match s.notReady with
  | some f => (⟨false, .failure f⟩, g)
  | none => g.forward r s.work

end Guard
end Turnstile
