import Turnstile.Proofs.Guard.Settings
import Turnstile.Proofs.Session.Places
/-!
What an action does to the guard of its session. It may ask for a call, report calls, put
configurations to the guard, look at a bucket or sweep; which of these it does says what becomes of
the snapshot, and of what the guard has for a key.
-/
namespace Turnstile

def Action.call? {β ε : Type} : Action β ε → Option (String × Context)
  | .enter _ method ctx | .startCall _ method ctx | .openStream _ method ctx _
  | .call method ctx _ => some (method, ctx)
  | .exchange _ r service => if service.notReady.isNone then some (r.path, .headers r.headers) else none
  | .startExchange _ r => some (r.path, .headers r.headers)
  | _ => none

/-- The quota by which an action looks at the bucket of the key, if it is one that looks there. -/
def Action.look? {β ε : Type} (key : Key) : Action β ε → Option Quota
  | .available own q => if own = key then some q else none
  | _ => none

def Action.offers {β ε : Type} : Action β ε → List Config
  | .replace c => [c]
  | .reload cs => cs
  | .reloadFile file => (Config.load file).toOption.toList
  | _ => []

def Action.reloads {β ε : Type} : Action β ε → Bool
  | .replace _ | .reload _ | .reloadFile _ => true
  | _ => false

namespace Session

variable {α β ε : Type} {s s' : Session α β ε} {pl : Place} {h : Held β ε} {key : Key}
  {a : Action β ε} {method : String} {ctx : Context}

theorem Keeps.aftermath (hk : s.Keeps pl h s') : s.guard.Aftermath s'.guard := by
  rw [hk.guard]
  exact s.guard.aftermath_conclude _ _

theorem keepResponse_aftermath (s : Session α β ε) (name : String) (result : ExchangeResult) :
    s.guard.Aftermath (s.keepResponse name result).guard := by
  cases result with
  | response head b => exact Keeps.aftermath (s.keeps_keep .bodies name b)
  | failure | abandoned => exact .refl

theorem keepPermit_aftermath (s : Session α β ε) (name : String) (p : Permit) :
    s.guard.Aftermath (s.keepPermit name p).guard := by
  by_cases hn : name.isEmpty
  · rw [s.keepPermit_of_isEmpty hn]
    exact .complete p .cancelled .refl
  · exact Keeps.aftermath (s.keeps_keepPermit (by simpa using hn) p)

theorem Handled.aftermath {r : Answer α β ε × Session α β ε} (hh : Handled s pl r) :
    s.guard.Aftermath r.2.guard := by
  cases hh with
  | missing => exact .refl
  | served left held ends own sets => exact sets.guard ▸ ends.aftermath

theorem endExchange_aftermath (s : Session α β ε) (name body : String)
    (ending : Ending (Except Failure Response)) :
    s.guard.Aftermath (s.endExchange name body ending).2.guard := by
  unfold endExchange
  split
  · exact .refl
  · next p _ =>
    let cleared : Session α β ε :=
      { s with guard := (s.guard.respond p ending).2, requests := s.requests.erase name }
    exact (s.guard.ends_respond p ending).aftermath.trans (cleared.keepResponse_aftermath body _)

variable [Quantity α]

theorem ask_aftermath (s : Session α β ε) (method : String) (ctx : Context)
    {reply : Permit → Reply α β ε} {keep : Session α β ε → Permit → Session α β ε}
    (hkeep : ∀ (s : Session α β ε) p, s.guard.Aftermath (keep s p).guard) :
    (s.guard.enter method ctx).2.Aftermath (s.ask method ctx reply keep).2.guard := by
  unfold ask
  rcases s.guard.enter method ctx with ⟨r | p, g⟩
  · exact .refl
  · exact hkeep { s with guard := g } p

theorem call_aftermath [CallFault ε] (s : Session α β ε) (method : String) (ctx : Context)
    (work : Work (Except ε β)) :
    (s.guard.enter method ctx).2.Aftermath (s.guard.call method ctx work).2 := by
  unfold Guard.call
  rcases s.guard.enter method ctx with ⟨r | p, g⟩
  · exact .refl
  · exact (Guard.Aftermath.advance work.clockShift .refl).trans
      (Guard.ends_settle _ p (work.course.wait p.policy.deadline)).aftermath

theorem exchange_aftermath (s : Session α β ε) (name : String) (r : Request) {service : Service}
    (hn : service.notReady = none) :
    (s.guard.enter r.path (.headers r.headers)).2.Aftermath (s.exchange name r service).2.guard := by
  have hforward : (s.guard.enter r.path (.headers r.headers)).2.Aftermath
      (s.guard.exchange r service).2 := by
    simp only [Guard.exchange, hn, Guard.forward]
    rcases s.guard.enter r.path (.headers r.headers) with ⟨rejection | p, g⟩
    · exact .refl
    · exact (Guard.Aftermath.advance service.work.clockShift .refl).trans
        (Guard.ends_respond _ p (service.work.course.wait p.policy.deadline)).aftermath
  let answered : Session α β ε := { s with guard := (s.guard.exchange r service).2 }
  exact hforward.trans (answered.keepResponse_aftermath name _)

/-- An action that asks for a call does this first, and only reports calls afterwards. -/
theorem step_of_call [CallFault ε] (hc : a.call? = some (method, ctx)) :
    (s.guard.enter method ctx).2.Aftermath (s.step a).2.guard := by
  cases a with
  | enter name =>
    cases hc
    exact s.ask_aftermath method ctx fun s p => s.keepPermit_aftermath name p
  | startCall name =>
    cases hc
    exact s.ask_aftermath method ctx fun s p => Keeps.aftermath (s.keeps_keep .calls name p)
  | startExchange name r =>
    cases hc
    exact s.ask_aftermath r.path _ fun s p => Keeps.aftermath (s.keeps_keep .requests name p)
  | openStream name =>
    cases hc
    rw [step, openStream_eq]
    exact s.ask_aftermath method ctx fun s p => Keeps.aftermath (s.keeps_keep .streams name _)
  | call =>
    cases hc
    exact s.call_aftermath method ctx _
  | exchange name r service =>
    cases hn : service.notReady with
    | none =>
      obtain ⟨rfl, rfl⟩ : r.path = method ∧ Context.headers r.headers = ctx := by
        simpa [Action.call?, hn] using hc
      exact s.exchange_aftermath name r hn
    | some f => simp [Action.call?, hn] at hc
  | _ => cases hc

/-- What an action can do to the guard. -/
inductive Effect (s : Session α β ε) : Action β ε → Guard α → Prop
  | asked {a method ctx g} (call : a.call? = some (method, ctx))
      (reports : (s.guard.enter method ctx).2.Aftermath g) : Effect s a g
  | reported {a g} (still : a.offers = []) (blind : ∀ key, a.look? key = none)
      (reports : s.guard.Aftermath g) : Effect s a g
  | told {a g} (blind : ∀ key, a.look? key = none) (told : s.guard.Told a.offers g) : Effect s a g
  | looked (own : Key) (q : Quota) : Effect s (.available own q) (s.guard.available own q).2
  | swept : Effect s .sweep s.guard.sweep.2
  | sweeping (wait : Span) : Effect s (.runSweeper wait) (s.guard.runSweeper wait)

theorem step_effect [CallFault ε] (s : Session α β ε) (a : Action β ε) :
    s.Effect a (s.step a).2.guard := by
  cases a with
  | enter | call | startCall | openStream | startExchange => exact .asked rfl (step_of_call rfl)
  | exchange name r service =>
    cases hr : service.notReady with
    | none =>
      have hc : (Action.exchange name r service : Action β ε).call? =
          some (r.path, .headers r.headers) := by simp [Action.call?, hr]
      exact .asked hc (step_of_call hc)
    | some f =>
      refine .reported rfl (fun _ => rfl) ?_
      simp only [step, exchange, Guard.exchange, hr]
      exact .refl
  | complete | drop | endCall | pollStream | dropStream | pollBody | dropBody =>
    exact .reported rfl (fun _ => rfl) (step_handled rfl).aftermath
  | endExchange name body ending =>
    exact .reported rfl (fun _ => rfl) (s.endExchange_aftermath name body ending)
  | advance span => exact .reported rfl (fun _ => rfl) (.advance span .refl)
  | resolve | look => exact .reported rfl (fun _ => rfl) .refl
  | replace c => exact .told (fun _ => rfl) (s.guard.told_replace c)
  | reload cs => exact .told (fun _ => rfl) (s.guard.told_reload cs)
  | reloadFile file => exact .told (fun _ => rfl) (s.guard.told_reloadFrom (Config.load file))
  | available own q => exact .looked own q
  | sweep => exact .swept
  | runSweeper wait => exact .sweeping wait

theorem offers_of_call (hc : a.call? = some (method, ctx)) : a.offers = [] := by
  cases a with
  | replace | reload | reloadFile => cases hc
  | _ => rfl

theorem look?_of_call (hc : a.call? = some (method, ctx)) : a.look? key = none := by
  cases a with
  | available => cases hc
  | _ => rfl

theorem step_snapshot [CallFault ε] (s : Session α β ε) (a : Action β ε) :
    (s.step a).2.guard.snapshot = a.offers.foldl Snapshot.accept s.guard.snapshot := by
  have he := s.step_effect a
  generalize (s.step a).2.guard = g at he ⊢
  cases he with
  | @asked _ method ctx _ call reports =>
    rw [offers_of_call call, reports.snapshot]
    exact (s.guard.enter_spec method ctx).frame.2.1
  | reported still _ reports =>
    rw [still]
    exact reports.snapshot
  | told _ told => exact told.snapshot
  | looked | swept => rfl
  | sweeping wait => exact s.guard.snapshot_runSweeper wait

/-- The policy, in the snapshot in effect, under which an action asks for a call of the key. -/
def asked? (s : Session α β ε) (key : Key) (a : Action β ε) : Option Policy :=
  a.call?.bind fun (method, ctx) =>
    let call := s.guard.snapshot.extract method ctx
    if call.1 = key then some call.2 else none

theorem step_acquired [CallFault ε] {policy : Policy} (hp : s.asked? key a = some policy) :
    s.guard.Acquired key policy (s.step a).2.guard := by
  obtain ⟨⟨method, ctx⟩, hc, hown⟩ := Option.bind_eq_some_iff.1 hp
  obtain ⟨rfl, rfl⟩ : (s.guard.snapshot.extract method ctx).1 = key ∧
      (s.guard.snapshot.extract method ctx).2 = policy := by
    simpa using hown
  exact (s.guard.enter_spec method ctx).acquired.then (step_of_call hc)

theorem step_interlude [CallFault ε] (hd : s.guard.Distinct) (hn : s.asked? key a = none) :
    s.guard.Interlude key (a.look? key) (s.step a).2.guard := by
  have he := s.step_effect a
  generalize (s.step a).2.guard = g at he ⊢
  cases he with
  | @asked _ method ctx _ call reports =>
    have hne : key ≠ (s.guard.snapshot.extract method ctx).1 := by
      rintro rfl
      simp [asked?, call] at hn
    rw [look?_of_call call]
    exact ((s.guard.enter_spec method ctx).interlude hne).trans (reports.interlude key)
  | reported _ blind reports =>
    rw [blind key]
    exact reports.interlude key
  | told blind told =>
    rw [blind key]
    exact told.interlude key
  | looked own q => exact s.guard.interlude_available own key q
  | swept => exact Guard.interlude_sweep hd key
  | sweeping wait => exact Guard.interlude_runSweeper hd wait key

theorem step_told [CallFault ε] (hr : a.reloads = true) : s.guard.Told a.offers (s.step a).2.guard ∧
    (s.step a).2 = { s with guard := (s.step a).2.guard } := by
  cases a with
  | replace c => exact ⟨s.guard.told_replace c, rfl⟩
  | reload cs => exact ⟨s.guard.told_reload cs, rfl⟩
  | reloadFile file => exact ⟨s.guard.told_reloadFrom (Config.load file), rfl⟩
  | _ => cases hr

theorem Fit.told {cs : List Config} {g : Guard α} (hs : s.Fit) (ht : s.guard.Told cs g) :
    ({ s with guard := g } : Session α β ε).Fit := by
  obtain ⟨-, hlimiter, hbreakers, -⟩ := ht.frame
  have hmoved : Moved none none s { s with guard := g } := moved_withGuard s g
  refine ⟨hs.tidy.withGuard g, ⟨?_, ?_, hs.sound.keyed⟩, hmoved.labelled hs.labelled, ?_⟩
  · exact (hbreakers ▸ hs.sound.lawful :)
  · exact (hbreakers ▸ hs.sound.pinned :)
  · exact (hlimiter ▸ hs.limiter :)

end Session
end Turnstile
