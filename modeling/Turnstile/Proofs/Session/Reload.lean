import Turnstile.Proofs.Session.Effects
import Turnstile.Session.Reloader
/-!
Reloads in the middle of a session. A configuration takes effect as a whole or not at all, however it
comes to the guard; buckets, breakers and permits are not touched by it, and a key goes by its old
settings until a call of it is asked for.
-/
namespace Turnstile

namespace Reply

variable {α β ε : Type}

def failed : Reply α β ε → Bool
  | .replaced (.error _) | .reloaded (.error _) => true
  | _ => false

def version? : Reply α β ε → Option Nat
  | .replaced (.ok version) | .reloaded (.ok version) => some version
  | _ => none

end Reply

namespace Occurrence

variable {β ε : Type}

def reloads : Occurrence β ε → Bool
  | .action a => a.reloads
  | .source _ | .take => true
  | .send _ => false

def sent? : Occurrence β ε → Option Config
  | .send c => some c
  | _ => none

def look? (key : Key) : Occurrence β ε → Option Quota
  | .action a => a.look? key
  | _ => none

end Occurrence

namespace Managed

open Config (accepted)

variable {α β ε : Type} {m : Managed α β ε} {o : Occurrence β ε}

/-- The configurations that are put to the guard, in order. -/
def offers (m : Managed α β ε) : Occurrence β ε → List Config
  | .action a => a.offers
  | .source loaded => loaded.toOption.toList
  | .send _ => []
  | .take => m.queue.head?.toList

def takes (m : Managed α β ε) : Occurrence β ε → List Config
  | .take => m.offers (.take : Occurrence β ε)
  | _ => []

def asked? (m : Managed α β ε) (key : Key) : Occurrence β ε → Option Policy
  | .action a => m.session.asked? key a
  | _ => none

theorem take_eq (m : Managed α β ε) :
    m.guard.Told (m.offers (.take : Occurrence β ε)) m.take.guard ∧
    m.take.session = { m.session with guard := m.take.guard } ∧
    m.offers (.take : Occurrence β ε) ++ m.take.queue = m.queue := by
  obtain ⟨session, queue⟩ := m
  cases queue with
  | nil => exact ⟨Guard.told_nothing _, rfl, rfl⟩
  | cons c queue => exact ⟨Guard.told_update _ c, rfl, rfl⟩

/-- An answer that is passed on tells what it told. -/
theorem answered {η : Type} {reply : Except η Nat → Reply α β ε} {cs : List Config}
    {answer : Except η Nat × Guard α} (m : Managed α β ε) (ha : m.guard.Answers cs answer)
    (herror : ∀ e, (reply (.error e)).version? = none)
    (hok : ∀ version, (reply (.ok version)).failed = false ∧
      (reply (.ok version)).version? = some version) :
    ((reply answer.1).failed = true → m.withGuard answer.2 = m ∧ accepted cs = []) ∧
      ∀ version, (reply answer.1).version? = some version →
        answer.2.snapshot.version = version := by
  obtain ⟨e | installed, g⟩ := answer
  · obtain ⟨rfl, hnone⟩ := ha
    refine ⟨fun _ => ⟨rfl, hnone⟩, fun version hv => ?_⟩
    simp [herror] at hv
  · refine ⟨fun hf => ?_, fun version hv => ?_⟩
    · simp [hok] at hf
    · exact ha.trans (by simpa [hok] using hv)

variable [Quantity α] [CallFault ε]

def gathered (of : Managed α β ε → Occurrence β ε → List Config) (m : Managed α β ε) :
    List (Occurrence β ε) → List Config
  | [] => []
  | o :: os => of m o ++ gathered of (m.step o).2 os

def offered (m : Managed α β ε) (os : List (Occurrence β ε)) : List Config := m.gathered offers os

def taken (m : Managed α β ε) (os : List (Occurrence β ε)) : List Config := m.gathered takes os

/-- What an attempt to put configurations into effect does. -/
structure Attempt (m : Managed α β ε) (o : Occurrence β ε) : Prop where
  /-- The guard has other policies if there is one without a violation, and is otherwise as before. -/
  told : m.guard.Told (m.offers o) (m.step o).2.guard
  held : (m.step o).2.session = { m.session with guard := (m.step o).2.guard }
  failed : (m.step o).1.reply.failed = true → (m.step o).2 = m ∧ accepted (m.offers o) = []
  passed : ∀ version, (m.step o).1.reply.version? = some version →
    (m.step o).2.guard.snapshot.version = version
  /-- Where nothing is accepted, nothing is changed, but that it is logged. -/
  spurned : accepted (m.offers o) = [] → ∃ notices, Notice.events notices = [] ∧
    (m.step o).2.guard = m.guard.report notices

theorem step_snapshot (m : Managed α β ε) (o : Occurrence β ε) :
    (m.step o).2.guard.snapshot = (m.offers o).foldl Snapshot.accept m.guard.snapshot := by
  cases o with
  | action a => exact m.session.step_snapshot a
  | source loaded => exact (m.guard.told_reloadFrom loaded).snapshot
  | send c => rfl
  | take => exact m.take_eq.1.snapshot

theorem run_snapshot (m : Managed α β ε) (os : List (Occurrence β ε)) :
    (m.run os).guard.snapshot = (m.offered os).foldl Snapshot.accept m.guard.snapshot := by
  induction os generalizing m with
  | nil => rfl
  | cons o os ih =>
    have hthen : (m.run (o :: os)).guard.snapshot = ((m.step o).2.run os).guard.snapshot := rfl
    have hsplit : m.offered (o :: os) = m.offers o ++ (m.step o).2.offered os := rfl
    rw [hthen, ih, step_snapshot, hsplit, List.foldl_append]

theorem step_queue (m : Managed α β ε) (o : Occurrence β ε) :
    m.takes o ++ (m.step o).2.queue = m.queue ++ o.sent?.toList := by
  cases o with
  | action | source => exact (List.append_nil _).symm
  | send c => rfl
  | take => exact m.take_eq.2.2.trans (List.append_nil _).symm

/-- What has been taken and what still waits is what has been sent, in this order. -/
theorem run_queue (m : Managed α β ε) (os : List (Occurrence β ε)) :
    m.taken os ++ (m.run os).queue = m.queue ++ os.filterMap (·.sent?) := by
  induction os generalizing m with
  | nil => exact (List.append_nil _).symm
  | cons o os ih =>
    -- The queue that `o` leaves is split by the rest of the run; `step_queue` puts `o` before it.
    have hthen : (m.step o).2.taken os ++ (m.run (o :: os)).queue =
        (m.step o).2.queue ++ os.filterMap (·.sent?) := ih (m.step o).2
    have hsplit : m.taken (o :: os) = m.takes o ++ (m.step o).2.taken os := rfl
    have hsent : (o :: os).filterMap (·.sent?) = o.sent?.toList ++ os.filterMap (·.sent?) := by
      cases ho : o.sent? <;> simp [ho]
    rw [hsplit, List.append_assoc, hthen, hsent, ← List.append_assoc, step_queue, List.append_assoc]

theorem step_answers (m : Managed α β ε) (hr : o.reloads = true) :
    ((m.step o).1.reply.failed = true → (m.step o).2 = m ∧ accepted (m.offers o) = []) ∧
      ∀ version, (m.step o).1.reply.version? = some version →
        (m.step o).2.guard.snapshot.version = version := by
  cases o with
  | action a =>
    cases a with
    | replace c => exact m.answered (m.guard.answers_replace c) (fun _ => rfl) fun _ => ⟨rfl, rfl⟩
    | reload cs => exact ⟨fun hf => (nomatch hf), fun _ hv => Option.some.inj hv⟩
    | reloadFile file =>
      exact m.answered (m.guard.answers_reloadFrom (Config.load file)) (fun _ => rfl)
        fun _ => ⟨rfl, rfl⟩
    | _ => cases hr
  | source loaded =>
    exact m.answered (m.guard.answers_reloadFrom loaded) (fun _ => rfl) fun _ => ⟨rfl, rfl⟩
  | send => cases hr
  | take => exact ⟨fun hf => (nomatch hf), fun _ hv => nomatch hv⟩

theorem attempt_step (m : Managed α β ε) (hr : o.reloads = true) : m.Attempt o := by
  obtain ⟨htold, hheld⟩ : m.guard.Told (m.offers o) (m.step o).2.guard ∧
      (m.step o).2.session = { m.session with guard := (m.step o).2.guard } := by
    cases o with
    | action a => exact Session.step_told hr
    | source loaded => exact ⟨m.guard.told_reloadFrom loaded, rfl⟩
    | send c => cases hr
    | take => exact ⟨m.take_eq.1, m.take_eq.2.1⟩
  exact ⟨htold, hheld, (m.step_answers hr).1, (m.step_answers hr).2, htold.of_none⟩

theorem fit_step (hm : m.session.Fit) (o : Occurrence β ε) : (m.step o).2.session.Fit := by
  cases o with
  | action a => exact hm.step a
  | source loaded => exact hm.told (m.guard.told_reloadFrom loaded)
  | send c => exact hm
  | take =>
    obtain ⟨htold, hheld, -⟩ := m.take_eq
    exact (hheld ▸ hm.told htold :)

theorem fit_run (hm : m.session.Fit) (os : List (Occurrence β ε)) : (m.run os).session.Fit := by
  induction os generalizing m with
  | nil => exact hm
  | cons o os ih => exact ih (fit_step hm o)

theorem step_acquired {key : Key} {policy : Policy} (hp : m.asked? key o = some policy) :
    m.guard.Acquired key policy (m.step o).2.guard := by
  cases o with
  | action a => exact Session.step_acquired hp
  | source | send | take => cases hp

theorem step_interlude {key : Key} (hm : m.session.Fit) (hn : m.asked? key o = none) :
    m.guard.Interlude key (o.look? key) (m.step o).2.guard := by
  cases o with
  | action a => exact Session.step_interlude hm.distinct hn
  | source loaded => exact (m.guard.told_reloadFrom loaded).interlude key
  | send c => exact Guard.interlude_of_eq rfl rfl
  | take => exact m.take_eq.1.interlude key

/-- Reloads are all or nothing, in every run of a guard and of a reloader, whatever else goes on. The
version counts the accepted attempts, and the last of them is in effect; what fails changes nothing;
updates are taken in the order in which they were sent; no attempt touches a bucket, a breaker or a
permit; and a key hears of a quota or of thresholds when a call of it is asked for, by the snapshot in
effect then. -/
theorem reload_all_or_nothing {c : Config} {g : Guard α} (hg : Guard.ofConfig c = .ok g)
    (os : List (Occurrence β ε)) :
    let start : Managed α β ε := .ofGuard g
    let accepted := Config.accepted (start.offered os)
    let m := start.run os
    m.guard.snapshot.version = 1 + accepted.length ∧
      Snapshot.compile (1 + accepted.length) (accepted.getLastD c) = .ok m.guard.snapshot ∧
      start.taken os ++ m.queue = os.filterMap (·.sent?) ∧
      ∀ o, (o.reloads = true → m.Attempt o) ∧ ∀ key,
        (∀ policy, m.asked? key o = some policy →
          m.guard.Acquired key policy (m.step o).2.guard) ∧
        (m.asked? key o = none → m.guard.Interlude key (o.look? key) (m.step o).2.guard) := by
  intro start accepted m
  obtain ⟨hv, rfl⟩ := Guard.ofConfig_eq_ok.1 hg
  have hsnapshot : m.guard.snapshot = .ofConfig (1 + accepted.length) (accepted.getLastD c) :=
    (start.run_snapshot os).trans (Snapshot.foldl_accept 1 c _)
  have hfit : m.session.Fit := fit_run (Session.fit_start _) os
  refine ⟨congrArg Snapshot.version hsnapshot, ?_, start.run_queue os, fun o =>
    ⟨m.attempt_step, fun key => ⟨fun policy => step_acquired, step_interlude hfit⟩⟩⟩
  exact Snapshot.compile_eq_ok.2 ⟨Snapshot.getLastD_accepted_valid hv _, hsnapshot⟩

/-- While a call is out, one update is turned away and the next one takes effect, and another source has
nothing to give. The call is counted by the thresholds under which it was let in. -/
theorem update_amid_call :
    let t := { Thresholds.standard with minimumCalls := 1 }
    let c := { Config.standard with circuitBreaking := ⟨true, t⟩ }
    let bad := { Config.standard with defaultDeadlineMs := some 0 }
    let g : Guard Rat := .ofSnapshot (.ofConfig 1 c)
    let os : List (Occurrence Unit) :=
      [.action (.enter "p" "/m" (.headers .empty)), .send bad, .send .standard, .take,
        .source (.error .malformed), .take, .action (.complete "p" (.ofCallee .unavailable))]
    let m : Managed Rat Unit := run (ofGuard g) os
    Guard.ofConfig c = .ok g ∧ m.guard.snapshot.version = 2 ∧
      Snapshot.compile 2 .standard = .ok m.guard.snapshot ∧
      m.guard.breakers.state? ⟨"m"⟩ = some .open := by
  intro t c bad g os m
  have hg : Guard.ofConfig c = .ok g := Guard.ofConfig_eq_ok.2 ⟨by decide +kernel, rfl⟩
  have haccepted : accepted (offered (ofGuard g) os) = [.standard] := by decide +kernel
  obtain ⟨hversion, hsnapshot, -⟩ := reload_all_or_nothing hg os
  rw [haccepted] at hversion hsnapshot
  exact ⟨hg, hversion, hsnapshot, by decide +kernel⟩

end Managed
end Turnstile
