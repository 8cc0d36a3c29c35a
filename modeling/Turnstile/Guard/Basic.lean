import Turnstile.Breaker.Registry
import Turnstile.Limiter
import Turnstile.Policy
/-!
Guards. A guard lets a call pass or turns it away: first the limiter is asked and then the breaker, so
that a throttled call never takes the place of a probe. A token spent on a call that the breaker turns
away is not given back.
-/
namespace Turnstile

structure Permit where
  key : Key
  policy : Policy
  breaker : Option BreakerPermit
  startedAt : Instant
  deriving DecidableEq

def Permit.probe (p : Permit) : Bool := p.breaker.any (·.probe)

/-- A guard with tokens counted in `α`. -/
structure Guard (α : Type) where
  now : Instant
  snapshot : Snapshot
  limiter : Limiter α
  breakers : Breakers
  journal : List Notice

namespace Guard

variable {α : Type}

def ofSnapshot (s : Snapshot) : Guard α where
  now := 0
  snapshot := s
  limiter := .empty
  breakers := .empty
  journal := []

def ofConfig (c : Config) : Except (List Violation) (Guard α) :=
  (Snapshot.compile 1 c).map ofSnapshot

instance : Inhabited (Guard α) := ⟨ofSnapshot default⟩

def report (g : Guard α) (notices : List Notice) : Guard α :=
  { g with journal := g.journal ++ notices }

def events (g : Guard α) : List Event := Notice.events g.journal

def advance (g : Guard α) (by' : Span) : Guard α := { g with now := g.now + by' }

def refuse (g : Guard α) (r : Rejection) : Rejection × Guard α :=
  (r, g.report
    [.logged .debug "Rejecting call" [("key", r.key.text), ("reason", r.reason.name)],
     .event (.rejected r.key r.reason)])

def takeSlot (g : Guard α) (key : Key) (p : Policy) :
    Except Circuit (Option BreakerPermit) × Guard α :=
  match p.thresholds with
  | none => (.ok none, g)
  | some t =>
    let (admission, notices, breakers) := g.breakers.acquire key t g.now
    let g := { g with breakers }.report notices
    match admission with
    | .admitted permit => (.ok (some permit), g)
    | .rejected state _ => (.error state, g)

/-- Completes a call with the status that it ended with. The classifier is that of the snapshot in
effect now, which may be a later one than admitted the call. -/
def complete (g : Guard α) (p : Permit) (status : CallStatus) : Outcome × Guard α :=
  let outcome := g.snapshot.classifier.classify status
  let g :=
    match p.breaker with
    | none => g
    | some permit =>
      let (_, notices, breakers) :=
        g.breakers.complete permit outcome (g.now.since p.startedAt) g.now
      { g with breakers }.report notices
  (outcome, g.report [.event (.outcome p.key outcome)])

def abandon (g : Guard α) (p : Permit) : Guard α := (g.complete p .cancelled).2

variable [Quantity α]

def takeTokens (g : Guard α) (key : Key) (p : Policy) : Bool × Guard α :=
  match p.quota with
  | none => (true, g)
  | some q =>
    let (granted, notices, limiter) := g.limiter.acquire key q p.tokenCost g.now
    (granted, { g with limiter }.report notices)

def enter (g : Guard α) (method : String) (ctx : Context) : Except Rejection Permit × Guard α :=
  let (key, policy) := g.snapshot.extract method ctx
  match g.takeTokens key policy with
  | (false, g) =>
    let (r, g) := g.refuse (.rateLimited key)
    (.error r, g)
  | (true, g) =>
    match g.takeSlot key policy with
    | (.error state, g) =>
      let (r, g) := g.refuse (.circuitOpen key state)
      (.error r, g)
    | (.ok breaker, g) => (.ok ⟨key, policy, breaker, g.now⟩, g)

def available (g : Guard α) (key : Key) (q : Quota) : Option α × Guard α :=
  let (tokens, limiter) := g.limiter.available key q g.now
  (tokens, { g with limiter })

end Guard
end Turnstile
