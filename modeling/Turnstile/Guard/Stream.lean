import Turnstile.Guard.Basic
/-!
Calls that give a stream of items. The call is admitted when the stream is opened, and completed by
the first error, by the end of the stream, or by giving the stream up.
-/
namespace Turnstile

inductive StreamItem (β : Type) (ε : Type := CallStatus) where
  | item (b : β)
  | failure (e : ε)
  | pending

inductive Polled (β : Type) (ε : Type := CallStatus) where
  | item (b : β)
  | failure (e : ε)
  | pending
  | finished

structure GuardedStream (β : Type) (ε : Type := CallStatus) where
  key : Key
  items : List (StreamItem β ε)
  permit : Option Permit

namespace GuardedStream

variable {α β ε : Type}

def terminated (s : GuardedStream β ε) : Bool := s.permit.isNone

def finish (s : GuardedStream β ε) (status : CallStatus) (g : Guard α) :
    GuardedStream β ε × Guard α :=
  match s.permit with
  | none => (s, g)
  | some p => ({ s with permit := none }, (g.complete p status).2)

def poll [CallFault ε] (s : GuardedStream β ε) (g : Guard α) :
    Polled β ε × GuardedStream β ε × Guard α :=
  match s.items with
  | [] => (.finished, s.finish .ok g)
  | .pending :: rest => (.pending, { s with items := rest }, g)
  | .item b :: rest => (.item b, { s with items := rest }, g)
  | .failure e :: rest => (.failure e, { s with items := rest }.finish (CallFault.status e) g)

def drop (s : GuardedStream β ε) (g : Guard α) : Guard α :=
  match s.permit with
  | none => g
  | some p => g.abandon p

end GuardedStream

def Guard.openStream {α β ε : Type} [Quantity α] (g : Guard α) (method : String) (ctx : Context)
    (items : List (StreamItem β ε)) : Except Rejection (GuardedStream β ε) × Guard α :=
  match g.enter method ctx with
  | (.error r, g) => (.error r, g)
  | (.ok p, g) => (.ok ⟨p.key, items, some p⟩, g)

end Turnstile
