import Turnstile.Session.Guard
/-!
Sessions with a guard whose configuration comes from elsewhere as well. It may be loaded from any
source and put into effect at once; or it is sent to a reloader, which takes the updates that wait for
it one at a time, in the order in which they were sent.
-/
namespace Turnstile

structure Managed (α β : Type) (ε : Type := CallStatus) where
  session : Session α β ε
  queue : List Config

inductive Occurrence (β : Type) (ε : Type := CallStatus) where
  | action (a : Action β ε)
  /-- What a source has given, a configuration or an error, is put to the guard. -/
  | source (loaded : Except LoadError Config)
  | send (c : Config)
  | take

namespace Managed

variable {α β ε : Type}

def ofGuard (g : Guard α) : Managed α β ε := ⟨.ofGuard g, []⟩

def guard (m : Managed α β ε) : Guard α := m.session.guard

def withGuard (m : Managed α β ε) (guard : Guard α) : Managed α β ε :=
  { m with session := { m.session with guard } }

def take (m : Managed α β ε) : Managed α β ε :=
  match m.queue with
  | [] => m
  | c :: queue => { m.withGuard (m.guard.update c) with queue }

variable [Quantity α] [CallFault ε]

def step (m : Managed α β ε) : Occurrence β ε → Answer α β ε × Managed α β ε
  | .action a =>
    let (answer, session) := m.session.step a
    (answer, { m with session })
  | .source loaded =>
    let (result, guard) := m.guard.reloadFrom loaded
    (⟨none, .reloaded result⟩, m.withGuard guard)
  | .send c => (⟨none, .done⟩, { m with queue := m.queue ++ [c] })
  | .take => (⟨none, .done⟩, m.take)

def run (m : Managed α β ε) (os : List (Occurrence β ε)) : Managed α β ε :=
  os.foldl (fun m o => (m.step o).2) m

end Managed
end Turnstile
