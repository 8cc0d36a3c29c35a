import Turnstile.Guard.Exchange
import Turnstile.Guard.Stream
import Turnstile.Guard.Upkeep
import Turnstile.Session.Shelf
/-!
Sessions with a guard. A session holds what the callers of the guard hold, each thing under a name; what
is put under a name that is taken replaces the older one, which is given up.
-/
namespace Turnstile

structure Session (α β : Type) (ε : Type := CallStatus) where
  guard : Guard α
  permits : Shelf Permit
  calls : Shelf Permit
  requests : Shelf Permit
  streams : Shelf (GuardedStream β ε)
  bodies : Shelf Body

inductive Action (β : Type) (ε : Type := CallStatus) where
  /-- Asks for a permit and keeps it under a name; with no name it is given up at once. -/
  | enter (name : String) (method : String) (ctx : Context)
  | complete (name : String) (status : CallStatus)
  | drop (name : String)
  | call (method : String) (ctx : Context) (work : Work (Except ε β))
  | startCall (name : String) (method : String) (ctx : Context)
  | endCall (name : String) (ending : Ending (Except ε β))
  | openStream (name : String) (method : String) (ctx : Context) (items : List (StreamItem β ε))
  | pollStream (name : String)
  | dropStream (name : String)
  | exchange (name : String) (request : Request) (service : Service)
  | startExchange (name : String) (request : Request)
  /-- Ends the exchange of this name; the body of its response is kept under a name of its own. -/
  | endExchange (name : String) (body : String) (ending : Ending (Except Failure Response))
  | pollBody (name : String)
  | dropBody (name : String)
  | advance (span : Span)
  | replace (c : Config)
  | reload (configs : List Config)
  | reloadFile (file : FileContent)
  | resolve (method : String) (ctx : Context)
  | available (key : Key) (q : Quota)
  | look (key : Key)
  | sweep
  | runSweeper (wait : Span)

inductive Reply (α β : Type) (ε : Type := CallStatus) where
  | entered (permit : Permit)
  | rejected (r : Rejection)
  | completed (outcome : Outcome)
  | dropped
  | nothingHeld
  | called (result : CallResult β ε)
  | opened
  | polled (item : Polled β ε) (left : GuardedStream β ε)
  | exchanged (e : Exchange)
  | polledFrame (frame : PolledFrame) (left : Body)
  | replaced (result : Except (List Violation) Nat)
  | reloaded (result : Except LoadError Nat)
  | policy (p : Policy)
  | tokens (amount : Option α)
  /-- Whether there is a bucket, and the state of the breaker if there is one. -/
  | seen (bucket : Bool) (circuit : Option Circuit)
  | evicted (keys : Nat)
  | done

structure Answer (α β : Type) (ε : Type := CallStatus) where
  key : Option Key
  reply : Reply α β ε

/-- One of the shelves of a session, and what is to be known of the things on it. -/
structure Rack (α β ε γ : Type) where
  shelf : Session α β ε → Shelf γ
  refit : Session α β ε → Shelf γ → Session α β ε
  key : γ → Key
  giveUp : γ → Guard α → Guard α

namespace Rack

variable {α β ε : Type}

def permits : Rack α β ε Permit where
  shelf s := s.permits
  refit s permits := { s with permits }
  key p := p.key
  giveUp p g := g.abandon p

def calls : Rack α β ε Permit where
  shelf s := s.calls
  refit s calls := { s with calls }
  key p := p.key
  giveUp p g := g.abandon p

def requests : Rack α β ε Permit where
  shelf s := s.requests
  refit s requests := { s with requests }
  key p := p.key
  giveUp p g := g.abandon p

def streams : Rack α β ε (GuardedStream β ε) where
  shelf s := s.streams
  refit s streams := { s with streams }
  key stream := stream.key
  giveUp stream g := stream.drop g

def bodies : Rack α β ε Body where
  shelf s := s.bodies
  refit s bodies := { s with bodies }
  key body := body.key
  giveUp body g := body.drop g

end Rack

namespace Session

variable {α β ε γ : Type}

def ofGuard (g : Guard α) : Session α β ε := ⟨g, .empty, .empty, .empty, .empty, .empty⟩

/-- Keeps a thing under a name and gives up the one that was there. -/
def keep (s : Session α β ε) (rack : Rack α β ε γ) (name : String) (c : γ) : Session α β ε :=
  let guard := ((rack.shelf s).get? name).elim s.guard (rack.giveUp · s.guard)
  rack.refit { s with guard } ((rack.shelf s).put name c)

def keepPermit (s : Session α β ε) (name : String) (p : Permit) : Session α β ε :=
  if name.isEmpty then { s with guard := s.guard.abandon p } else s.keep .permits name p

def about (key : Key) (reply : Reply α β ε) (s : Session α β ε) :
    Answer α β ε × Session α β ε :=
  (⟨some key, reply⟩, s)

def plain (reply : Reply α β ε) (s : Session α β ε) : Answer α β ε × Session α β ε :=
  (⟨none, reply⟩, s)

/-- Does something with the thing under a name, and puts back what is left of it. -/
def serve (s : Session α β ε) (rack : Rack α β ε γ) (name : String)
    (act : Guard α → γ → Reply α β ε × Option γ × Guard α) :
    Answer α β ε × Session α β ε :=
  match (rack.shelf s).get? name with
  | none => plain .nothingHeld s
  | some c =>
    let (reply, left, guard) := act s.guard c
    about (rack.key c) reply (rack.refit { s with guard } ((rack.shelf s).set name left))

def complete (s : Session α β ε) (name : String) (status : CallStatus) :
    Answer α β ε × Session α β ε :=
  s.serve .permits name fun g p =>
    let (outcome, g) := g.complete p status
    (.completed outcome, none, g)

def discard (s : Session α β ε) (rack : Rack α β ε γ) (name : String) :
    Answer α β ε × Session α β ε :=
  s.serve rack name fun g c => (.dropped, none, rack.giveUp c g)

def endCall [CallFault ε] (s : Session α β ε) (name : String) (ending : Ending (Except ε β)) :
    Answer α β ε × Session α β ε :=
  s.serve .calls name fun g p =>
    let (result, g) := g.settle p ending
    (.called result, none, g)

def keepResponse (s : Session α β ε) (name : String) : ExchangeResult → Session α β ε
  | .response _ body => s.keep .bodies name body
  | _ => s

def endExchange (s : Session α β ε) (name body : String)
    (ending : Ending (Except Failure Response)) : Answer α β ε × Session α β ε :=
  match s.requests.get? name with
  | none => plain .nothingHeld s
  | some p =>
    let (result, guard) := s.guard.respond p ending
    about p.key (.exchanged ⟨true, result⟩) <|
      { s with guard, requests := s.requests.erase name }.keepResponse body result

def pollStream [CallFault ε] (s : Session α β ε) (name : String) : Answer α β ε × Session α β ε :=
  s.serve .streams name fun g stream =>
    let (item, stream, g) := stream.poll g
    (.polled item stream, some stream, g)

def pollBody (s : Session α β ε) (name : String) : Answer α β ε × Session α β ε :=
  s.serve .bodies name fun g body =>
    let (frame, body, g) := body.poll g
    (.polledFrame frame body, some body, g)

variable [Quantity α]

def ask (s : Session α β ε) (method : String) (ctx : Context) (reply : Permit → Reply α β ε)
    (keep : Session α β ε → Permit → Session α β ε) : Answer α β ε × Session α β ε :=
  match s.guard.enter method ctx with
  | (.error r, guard) => about r.key (.rejected r) { s with guard }
  | (.ok p, guard) => about p.key (reply p) (keep { s with guard } p)

def enter (s : Session α β ε) (name method : String) (ctx : Context) :
    Answer α β ε × Session α β ε :=
  s.ask method ctx .entered (·.keepPermit name ·)

def startCall (s : Session α β ε) (name method : String) (ctx : Context) :
    Answer α β ε × Session α β ε :=
  s.ask method ctx (fun _ => .opened) (·.keep .calls name ·)

def startExchange (s : Session α β ε) (name : String) (r : Request) :
    Answer α β ε × Session α β ε :=
  s.ask r.path (.headers r.headers) (fun _ => .opened) (·.keep .requests name ·)

def openStream (s : Session α β ε) (name method : String) (ctx : Context)
    (items : List (StreamItem β ε)) : Answer α β ε × Session α β ε :=
  match s.guard.openStream method ctx items with
  | (.error r, guard) => about r.key (.rejected r) { s with guard }
  | (.ok stream, guard) => about stream.key .opened ({ s with guard }.keep .streams name stream)

def exchange (s : Session α β ε) (name : String) (r : Request) (service : Service) :
    Answer α β ε × Session α β ε :=
  let (key, _) := s.guard.snapshot.extract r.path (.headers r.headers)
  let (e, guard) := s.guard.exchange r service
  about key (.exchanged e) ({ s with guard }.keepResponse name e.result)

variable [CallFault ε]

def step (s : Session α β ε) : Action β ε → Answer α β ε × Session α β ε
  | .enter name method ctx => s.enter name method ctx
  | .complete name status => s.complete name status
  | .drop name => s.discard .permits name
  | .call method ctx work =>
    let (key, _) := s.guard.snapshot.extract method ctx
    let (result, guard) := s.guard.call method ctx work
    about key (.called result) { s with guard }
  | .startCall name method ctx => s.startCall name method ctx
  | .endCall name ending => s.endCall name ending
  | .openStream name method ctx items => s.openStream name method ctx items
  | .pollStream name => s.pollStream name
  | .dropStream name => s.discard .streams name
  | .exchange name r service => s.exchange name r service
  | .startExchange name r => s.startExchange name r
  | .endExchange name body ending => s.endExchange name body ending
  | .pollBody name => s.pollBody name
  | .dropBody name => s.discard .bodies name
  | .advance span => plain .done { s with guard := s.guard.advance span }
  | .replace c =>
    let (result, guard) := s.guard.replace c
    plain (.replaced result) { s with guard }
  | .reload configs =>
    let guard := s.guard.reload configs
    plain (.reloaded (.ok guard.snapshot.version)) { s with guard }
  | .reloadFile file =>
    let (result, guard) := s.guard.reloadFile file
    plain (.reloaded result) { s with guard }
  | .resolve method ctx => plain (.policy (s.guard.snapshot.resolve method ctx)) s
  | .available key q =>
    let (amount, guard) := s.guard.available key q
    about key (.tokens amount) { s with guard }
  | .look key =>
    about key (.seen (s.guard.limiter.contains key) (s.guard.breakers.state? key)) s
  | .sweep =>
    let (keys, guard) := s.guard.sweep
    plain (.evicted keys) { s with guard }
  | .runSweeper wait => plain .done { s with guard := s.guard.runSweeper wait }

def run (s : Session α β ε) (actions : List (Action β ε)) : Session α β ε :=
  actions.foldl (fun s a => (s.step a).2) s

end Session
end Turnstile
