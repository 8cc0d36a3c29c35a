import Turnstile.Proofs.Guard.Sound
import Turnstile.Proofs.Session.Holdings
/-!
What a session does to its guard, deed by deed. An action is a run of deeds on the guard with the
permits that are out in the session; which calls it attempts is told by the action, and which of them
were admitted is told by its answer.
-/
namespace Turnstile

namespace Session

def attempt? {α β ε : Type} (s : Session α β ε) : Action β ε → Option Key
  | .enter _ method ctx | .call method ctx _ | .startCall _ method ctx
  | .openStream _ method ctx _ => some (s.guard.snapshot.extract method ctx).1
  | .exchange _ r service =>
    if service.notReady.isNone then
      some (s.guard.snapshot.extract r.path (.headers r.headers)).1
    else none
  | .startExchange _ r => some (s.guard.snapshot.extract r.path (.headers r.headers)).1
  | _ => none

end Session

/-- The key of the call that an action has had admitted, as its answer tells. -/
def Action.admission? {α β ε : Type} : Action β ε → Answer α β ε → Option Key
  | .enter .., ⟨key, .entered _⟩ => key
  | .call .., ⟨key, .called result⟩ => if result.ran then key else none
  | .startCall .., ⟨key, .opened⟩ => key
  | .openStream .., ⟨key, .opened⟩ => key
  | .startExchange .., ⟨key, .opened⟩ => key
  | .exchange .., ⟨key, .exchanged e⟩ => if e.called then key else none
  | _, _ => none

namespace Session

open Custody (Aside Reaches reaches_of_admitted reaches_of_rejected)

variable {α β ε : Type} [Quantity α] {s : Session α β ε}

theorem openStream_eq (s : Session α β ε) (name method : String) (ctx : Context)
    (items : List (StreamItem β ε)) :
    s.openStream name method ctx items = s.ask method ctx (fun _ => .opened)
      fun s p => s.keep .streams name ⟨p.key, items, some p⟩ := by
  unfold openStream Guard.openStream ask
  rcases s.guard.enter method ctx with ⟨r | p, g⟩ <;> rfl

/-- An action that asks for a permit is one attempt, and its answer tells whether it was admitted. -/
theorem ask_reaches (a : Action β ε) (method : String) (ctx : Context)
    {reply : Permit → Reply α β ε} {keep : Session α β ε → Permit → Session α β ε}
    (hkeep : ∀ guard p,
      Aside ⟨guard, p ::ₘ s.out⟩ (keep ({ s with guard } : Session α β ε) p).custody)
    (hrejected : ∀ r : Rejection, a.admission? (⟨r.key, .rejected r⟩ : Answer α β ε) = none)
    (hadmitted : ∀ p, a.admission? ⟨some p.key, reply p⟩ = some p.key) :
    Reaches s.custody [(s.guard.snapshot.extract method ctx).1]
      (a.admission? (s.ask method ctx reply keep).1).toList
      (s.ask method ctx reply keep).2.custody := by
  unfold ask
  rcases he : s.guard.enter method ctx with ⟨r | p, g⟩
  · simp only [about, hrejected]
    exact reaches_of_rejected s.out he
  · simp only [about, hadmitted]
    exact (reaches_of_admitted s.out he).then (hkeep g p)

theorem call_reaches [CallFault ε] (s : Session α β ε) (method : String) (ctx : Context)
    (work : Work (Except ε β)) :
    Reaches s.custody (s.attempt? (.call method ctx work)).toList
      ((Action.call method ctx work).admission? (s.step (.call method ctx work)).1).toList
      (s.step (.call method ctx work)).2.custody := by
  simp only [step, Guard.call]
  rcases he : s.guard.enter method ctx with ⟨r | p, g⟩
  · exact reaches_of_rejected s.out he
  · have hr := ((reaches_of_admitted s.out he).then
      (Custody.aside_advance _ g work.clockShift)).then
      (Custody.aside_of_end (Guard.ends_settle _ p (work.course.wait p.policy.deadline)) s.out)
    simp only [about, Action.admission?, Guard.await, Guard.ran_settle, if_true]
    rw [(Guard.entry_of_enter he).permit.1] at hr
    exact hr

theorem Tidy.exchange_reaches (ht : s.Tidy) (name : String) (r : Request) (service : Service) :
    Reaches s.custody (s.attempt? (.exchange name r service)).toList
      ((Action.exchange name r service).admission? (s.exchange name r service).1).toList
      (s.exchange name r service).2.custody := by
  have hr := Custody.exchange_reaches s.out s.guard r service
  rw [attempt?]
  exact hr.then ((ht.withGuard _).keepResponse_aside name _)

theorem Tidy.endExchange_aside (ht : s.Tidy) (name body : String)
    (ending : Ending (Except Failure Response)) :
    Aside s.custody (s.endExchange name body ending).2.custody := by
  unfold endExchange
  split
  · exact .refl _
  · next p hp =>
    obtain ⟨rest, hsplit, hset⟩ := Rack.Stands.requests.custody_split ht name
    rw [show (Rack.requests.shelf s).get? name = some p from hp] at hsplit
    have hleft :=
      (congrArg Custody.out (hset (s.guard.respond p ending).2 none)).trans (zero_add rest)
    -- The permit goes over from the request to the body, if the call is not at its end.
    have hover : Aside s.custody ⟨(s.guard.respond p ending).2,
        (s.guard.respond p ending).1.permit?.toList + rest⟩ :=
      hsplit ▸ Custody.aside_of_ends (s.guard.ends_respond p ending) rest
    rw [← hleft] at hover
    exact hover.then ((Rack.Stands.requests.tidy ht (ht.requests.erase name) _).keepResponse_aside
      body (s.guard.respond p ending).1)

variable [CallFault ε]

theorem Tidy.step_reaches (ht : s.Tidy) (a : Action β ε) :
    Reaches s.custody (s.attempt? a).toList (a.admission? (s.step a).1).toList
      (s.step a).2.custody := by
  cases a with
  | enter name method ctx =>
    exact ask_reaches _ method ctx (fun g p => (ht.withGuard g).keepPermit_aside name p)
      (fun _ => rfl) (fun _ => rfl)
  | complete name status =>
    exact ht.serve_aside .permits name fun p => .reported p status
  | drop name =>
    exact ht.serve_aside .permits name fun p => s.guard.ends_abandon p
  | call method ctx work => exact s.call_reaches method ctx work
  | startCall name method ctx =>
    exact ask_reaches _ method ctx (fun g p => (ht.withGuard g).keep_aside .calls name p)
      (fun _ => rfl) (fun _ => rfl)
  | endCall name ending =>
    exact ht.serve_aside .calls name fun p => s.guard.ends_settle p ending
  | openStream name method ctx items =>
    simp only [step, openStream_eq]
    exact ask_reaches _ method ctx
      (fun g p => (ht.withGuard g).keep_aside .streams name ⟨p.key, items, some p⟩)
      (fun _ => rfl) (fun _ => rfl)
  | pollStream name =>
    exact ht.serve_aside .streams name fun stream => Guard.ends_poll_stream stream s.guard
  | dropStream name =>
    exact ht.serve_aside .streams name fun stream => Guard.ends_drop_stream stream s.guard
  | exchange name r service => exact ht.exchange_reaches name r service
  | startExchange name r =>
    exact ask_reaches _ r.path (.headers r.headers)
      (fun g p => (ht.withGuard g).keep_aside .requests name p) (fun _ => rfl) (fun _ => rfl)
  | endExchange name body ending => exact ht.endExchange_aside name body ending
  | pollBody name => exact ht.serve_aside .bodies name fun b => Guard.ends_poll_body b s.guard
  | dropBody name => exact ht.serve_aside .bodies name fun b => Guard.ends_drop_body b s.guard
  | advance span => exact Custody.aside_advance s.out s.guard span
  | replace config => exact Custody.aside_replace s.out s.guard config
  | reload configs => exact Custody.aside_reload s.out s.guard configs
  | reloadFile file => exact Custody.aside_reloadFrom s.out s.guard (Config.load file)
  | resolve | look => exact .refl _
  | available key q => exact (Custody.Step.look key q).reaches
  | sweep => exact Custody.aside_sweep s.out s.guard
  | runSweeper wait =>
    -- The custody is opened by rewriting: to compare the guards as terms would run the sweeper.
    have hs : (s.step (.runSweeper wait)).2 = { s with guard := s.guard.runSweeper wait } := rfl
    rw [hs, custody_withGuard s (s.guard.runSweeper wait)]
    exact Custody.aside_runSweeper s.out s.guard wait

omit [CallFault ε] in
theorem Tidy.ask (ht : s.Tidy) (method : String) (ctx : Context) {reply : Permit → Reply α β ε}
    {keep : Session α β ε → Permit → Session α β ε}
    (hkeep : ∀ guard p, (keep ({ s with guard } : Session α β ε) p).Tidy) :
    (s.ask method ctx reply keep).2.Tidy := by
  unfold Session.ask
  split
  · exact ht.withGuard _
  · exact hkeep _ _

theorem Tidy.step (ht : s.Tidy) (a : Action β ε) : (s.step a).2.Tidy := by
  cases a with
  | enter name method ctx =>
    exact ht.ask method ctx fun g p => (ht.withGuard g).keepPermit name p
  | startCall name method ctx =>
    exact ht.ask method ctx fun g p => (ht.withGuard g).keep .calls name p
  | startExchange name r =>
    exact ht.ask r.path (.headers r.headers) fun g p => (ht.withGuard g).keep .requests name p
  | openStream name method ctx items =>
    simp only [Session.step, openStream_eq]
    exact ht.ask method ctx fun g _ => (ht.withGuard g).keep .streams name _
  | exchange name r service => exact (ht.withGuard _).keepResponse name _
  | complete name | drop name => exact ht.serve .permits name _
  | endCall name => exact ht.serve .calls name _
  | endExchange name body ending =>
    simp only [Session.step, endExchange]
    split
    · exact ht
    · exact (Rack.Stands.requests.tidy ht (ht.requests.erase name) _).keepResponse body _
  | pollStream name | dropStream name => exact ht.serve .streams name _
  | pollBody name | dropBody name => exact ht.serve .bodies name _
  | call | advance | replace | reload | reloadFile | available | sweep | runSweeper =>
    exact ht.withGuard _
  | resolve | look => exact ht

def gathered (of : Session α β ε → Action β ε → Option Key) (s : Session α β ε) :
    List (Action β ε) → List Key
  | [] => []
  | a :: as => (of s a).toList ++ gathered of (s.step a).2 as

def attempts (s : Session α β ε) (as : List (Action β ε)) : List Key := s.gathered attempt? as

def admissions (s : Session α β ε) (as : List (Action β ε)) : List Key :=
  s.gathered (fun s a => a.admission? (s.step a).1) as

theorem Tidy.run (ht : s.Tidy) (as : List (Action β ε)) : (s.run as).Tidy := by
  induction as generalizing s with
  | nil => exact ht
  | cons a as ih => exact ih (ht.step a)

theorem Tidy.run_reaches (ht : s.Tidy) (as : List (Action β ε)) :
    Reaches s.custody (s.attempts as) (s.admissions as) (s.run as).custody := by
  induction as generalizing s with
  | nil => exact .refl _
  | cons a as ih => exact (ht.step_reaches a).trans (ih (ht.step a))

/-- The guard and the permits of a session are sound after every run. -/
theorem sound_run (snapshot : Snapshot) (as : List (Action β ε)) :
    ((ofGuard (.ofSnapshot snapshot) : Session α β ε).run as).custody.Sound := by
  obtain ⟨ds, hr, -⟩ := (tidy_ofGuard (β := β) (.ofSnapshot snapshot : Guard α)).run_reaches as
  exact hr.sound (Custody.sound_start snapshot)

end Session
end Turnstile
