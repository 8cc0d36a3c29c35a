import Turnstile.Breaker.Registry
import Turnstile.Session.Shelf
/-!
Sessions with a registry of breakers alone. A session holds the permits that are out and remembers
the last ticket got under each name, so that an outcome can also be reported by a ticket that has
long been used.
-/
namespace Turnstile

structure BreakerSession where
  now : Instant
  breakers : Breakers
  permits : Shelf BreakerPermit
  /-- The last ticket under each name, with the key that it was got for. -/
  tickets : Shelf (Key × Ticket)
  journal : List Notice

inductive BreakerAction where
  | acquire (name : String) (key : Key) (t : Thresholds)
  | complete (name : String) (outcome : Outcome) (elapsed : Span)
  | drop (name : String)
  /-- Reports an outcome by the last ticket under a name, for the key of the ticket if no other is
  given. -/
  | record (name : String) (key : Option Key) (outcome : Outcome) (elapsed : Span)
  | advance (span : Span)
  | sweep (retention : Retention)
  | look (key : Key)

inductive BreakerReply where
  | admitted (permit : BreakerPermit)
  | rejected (state : Circuit) (denial : Denial)
  | recorded (r : Recorded)
  | dropped
  | nothingHeld
  | evicted (keys : Nat)
  | seen (circuit : Option Circuit)
  | done
  deriving DecidableEq

structure BreakerAnswer where
  key : Option Key
  reply : BreakerReply
  deriving DecidableEq

namespace BreakerSession

def start : BreakerSession := ⟨0, .empty, .empty, .empty, []⟩

instance : Inhabited BreakerSession := ⟨start⟩

def report (s : BreakerSession) (notices : List Notice) : BreakerSession :=
  { s with journal := s.journal ++ notices }

def keep (s : BreakerSession) (name : String) (p : BreakerPermit) : BreakerSession :=
  { s with
    breakers := (s.permits.get? name).elim s.breakers (s.breakers.drop · s.now)
    permits := s.permits.put name p
    tickets := s.tickets.put name (p.key, p.ticket) }

def acquire (s : BreakerSession) (name : String) (key : Key) (t : Thresholds) :
    BreakerReply × BreakerSession :=
  let (admission, notices, breakers) := s.breakers.acquire key t s.now
  let s := { s with breakers }.report notices
  match admission with
  | .admitted p => (.admitted p, s.keep name p)
  | .rejected state denial => (.rejected state denial, s)

def step (s : BreakerSession) : BreakerAction → BreakerAnswer × BreakerSession
  | .acquire name key t =>
    let (reply, s) := s.acquire name key t
    (⟨some key, reply⟩, s)
  | .complete name outcome elapsed =>
    match s.permits.get? name with
    | none => (⟨none, .nothingHeld⟩, s)
    | some p =>
      let (recorded, notices, breakers) := s.breakers.complete p outcome elapsed s.now
      (⟨some p.key, .recorded recorded⟩,
       { s with breakers, permits := s.permits.erase name }.report notices)
  | .drop name =>
    match s.permits.get? name with
    | none => (⟨none, .nothingHeld⟩, s)
    | some p =>
      (⟨some p.key, .dropped⟩,
       { s with breakers := s.breakers.drop p s.now, permits := s.permits.erase name })
  | .record name key outcome elapsed =>
    match s.tickets.get? name with
    | none => (⟨key, .nothingHeld⟩, s)
    | some (own, ticket) =>
      let key := key.getD own
      let (recorded, notices, breakers) :=
        s.breakers.recordOutcome key ticket outcome elapsed s.now
      (⟨some key, .recorded recorded⟩, { s with breakers }.report notices)
  | .advance span => (⟨none, .done⟩, { s with now := s.now + span })
  | .sweep retention =>
    let (breakers, keys) := s.breakers.sweep s.now retention
    (⟨none, .evicted keys⟩, { s with breakers })
  | .look key => (⟨some key, .seen (s.breakers.state? key)⟩, s)

def run (s : BreakerSession) (actions : List BreakerAction) : BreakerSession :=
  actions.foldl (fun s a => (s.step a).2) s

end BreakerSession
end Turnstile
