import Turnstile.Proofs.Session.Places
/-!
The balance of a session. Every call that is attempted is admitted or refused, and every call that was
admitted has made one outcome or is still out. A stream or body that has come to its end makes no
event any more.
-/
namespace Turnstile

theorem Custody.Run.attempts {α : Type} [Quantity α] {c c' : Custody α} {ds : List Deed}
    (hr : Custody.Run c ds c') (key : Key) :
    (ds.filterMap Deed.attempted?).count key =
      (ds.filterMap Deed.admitted?).count key + (ds.filterMap Deed.refused?).count key := by
  induction hr with
  | nil => rfl
  | @cons _ _ _ d ds _ _ ih =>
    cases d <;>
      simp only [List.filterMap_cons, Deed.attempted?, Deed.admitted?, Deed.refused?,
        List.count_cons] <;> omega

theorem Custody.count_keys {α : Type} (c : Custody α) (key : Key) :
    c.keys.count key = c.out.countP (·.key = key) := by
  rw [Custody.keys, Multiset.count_map, Multiset.countP_eq_card_filter]
  simp only [eq_comm]

theorem Custody.balance_of_run {α : Type} [Quantity α] {snapshot : Snapshot} {c : Custody α}
    {ds : List Deed} (hr : Custody.Run ⟨.ofSnapshot snapshot, 0⟩ ds c) (key : Key) :
    (ds.filterMap Deed.attempted?).count key =
        (ds.filterMap Deed.admitted?).count key +
          (c.guard.events.filterMap Event.rejection?).count key ∧
      (ds.filterMap Deed.admitted?).count key =
        (c.guard.events.filterMap Event.outcome?).count key + c.out.countP (·.key = key) := by
  obtain ⟨hrej, hout⟩ := hr.events
  have hrej : c.guard.events.filterMap Event.rejection? = ds.filterMap Deed.refused? := hrej
  have hout : c.guard.events.filterMap Event.outcome? = ds.filterMap Deed.settled? := hout
  have hb := congrArg (Multiset.count key) hr.balance
  rw [Multiset.count_add, Multiset.count_add, Multiset.coe_count, Multiset.coe_count,
    Custody.count_keys, Custody.count_keys, Multiset.countP_zero] at hb
  rw [hrej, hout]
  exact ⟨hr.attempts key, by omega⟩

inductive Handle where
  | stream (name : String)
  | body (name : String)

namespace Handle

variable {β ε : Type}

def place : Handle → Place
  | .stream name => .stream name
  | .body name => .body name

def poll : Handle → Action β ε
  | .stream name => .pollStream name
  | .body name => .pollBody name

def drop : Handle → Action β ε
  | .stream name => .dropStream name
  | .body name => .dropBody name

end Handle

def Action.handle? {β ε : Type} : Action β ε → Option Handle
  | .pollStream name | .dropStream name => some (.stream name)
  | .pollBody name | .dropBody name | .exchange name .. | .endExchange _ name _ =>
    some (.body name)
  | _ => none

/-- Whether a reply is the last that a stream or a body has to tell of its call. -/
def Reply.terminal {α β ε : Type} : Reply α β ε → Bool
  | .polled (.failure _) _ | .polled .finished _ => true
  | .polledFrame .finished _ => true
  | .polledFrame (.frame f) _ => f.finalStatus?.isSome
  | .exchanged ⟨_, .response head _⟩ => head.isFinal
  | .dropped => true
  | _ => false

theorem GuardedStream.permit_finish {α β ε : Type} (s : GuardedStream β ε) (status : CallStatus)
    (g : Guard α) : (s.finish status g).1.permit = none := by
  unfold finish
  split
  · assumption
  · rfl

theorem Body.permit_finish {α : Type} (b : Body) (status : CallStatus) (g : Guard α) :
    (b.finish status g).1.permit = none := by
  unfold finish
  split
  · assumption
  · rfl

theorem GuardedStream.permit_poll {α β ε : Type} [CallFault ε] (s : GuardedStream β ε) (g : Guard α)
    (hr : (Reply.polled (s.poll g).1 (s.poll g).2.1 : Reply α β ε).terminal = true) :
    (s.poll g).2.1.permit = none := by
  unfold poll at hr ⊢
  split at hr
  · exact s.permit_finish _ g
  · cases hr
  · cases hr
  · exact permit_finish _ _ g

theorem Body.permit_poll {α β ε : Type} (b : Body) (g : Guard α)
    (hr : (Reply.polledFrame (b.poll g).1 (b.poll g).2.1 : Reply α β ε).terminal = true) :
    (b.poll g).2.1.permit = none := by
  unfold poll at hr ⊢
  split at hr
  · exact b.permit_finish _ g
  · cases hf : Frame.finalStatus? _ with
    | none =>
      simp only [hf, Reply.terminal] at hr
      cases hr
    | some status => exact permit_finish _ status g

theorem Guard.permit_respond {α : Type} (g : Guard α) (p : Permit)
    (ending : Ending (Except Failure Response)) {head : ResponseHead} {body : Body}
    (hr : (g.respond p ending).1 = .response head body) (hf : head.isFinal = true) :
    body.permit = none := by
  cases ending with
  | finished result =>
    cases result with
    | error f => cases hr
    | ok r =>
      simp only [respond, passOn] at hr
      split at hr <;> cases hr
      · rfl
      · contradiction
  | overdue => cases hr; rfl
  | abandoned => cases hr

theorem Guard.permit_exchange {α : Type} [Quantity α] (g : Guard α) (r : Request)
    (service : Service) {head : ResponseHead} {body : Body}
    (hr : (g.exchange r service).1.result = .response head body) (hf : head.isFinal = true) :
    body.permit = none := by
  unfold exchange forward at hr
  split at hr
  · cases hr
  · split at hr
    · cases hr; rfl
    · exact Guard.permit_respond _ _ _ hr hf

namespace Session

variable {α β ε : Type} {s : Session α β ε}

/-- The permit that stands at a place, by itself or inside a stream or a body. -/
def permitAt? (s : Session α β ε) (pl : Place) : Option Permit := (s.at? pl).bind (·.permit?)

theorem permitAt?_keepResponse (s : Session α β ε) (name : String) {e : Exchange}
    (hr : (Reply.exchanged e : Reply α β ε).terminal = true)
    (hp : ∀ head body, e.result = .response head body → head.isFinal = true →
      body.permit = none) :
    (s.keepResponse name e.result).permitAt? (.body name) = none := by
  obtain ⟨called, result⟩ := e
  cases result with
  | response head body =>
    rw [keepResponse, permitAt?, (s.keeps_keep .bodies name body).places, Function.update_self]
    exact hp head body rfl hr
  | failure | abandoned => cases hr

theorem permitAt?_serve {γ : Type} {rack : Rack α β ε γ} {place : String → Place}
    {held : γ → Held β ε} (s : Session α β ε) (hr : rack.Stands place held) (name : String)
    {act : Guard α → γ → Reply α β ε × Option γ × Guard α}
    (hact : ∀ c, (act s.guard c).1.terminal = true →
      ((act s.guard c).2.1.bind fun c => (held c).permit?) = none)
    (ht : (s.serve rack name act).1.reply.terminal = true) :
    (s.serve rack name act).2.permitAt? (place name) = none := by
  unfold serve at ht ⊢
  split at ht
  · cases ht
  · next c _ =>
    simp only [about]
    rw [permitAt?, (hr.sets s _ name _).places, Function.update_self, Option.bind_map]
    exact hact c ht

variable [Quantity α] [CallFault ε]

theorem permitAt?_of_terminal {a : Action β ε} {handle : Handle} (ha : a.handle? = some handle)
    (hr : (s.step a).1.reply.terminal = true) :
    (s.step a).2.permitAt? handle.place = none := by
  cases a with
  | pollStream name =>
    cases ha
    exact s.permitAt?_serve .streams name (fun stream => stream.permit_poll s.guard) hr
  | pollBody name =>
    cases ha
    exact s.permitAt?_serve .bodies name (fun body => body.permit_poll s.guard) hr
  | dropStream name =>
    cases ha
    exact s.permitAt?_serve .streams name (fun _ _ => rfl) hr
  | dropBody name =>
    cases ha
    exact s.permitAt?_serve .bodies name (fun _ _ => rfl) hr
  | exchange name r service =>
    cases ha
    exact permitAt?_keepResponse _ name hr fun head body he =>
      s.guard.permit_exchange r service he
  | endExchange name body ending =>
    cases ha
    simp only [step, endExchange] at hr ⊢
    split at hr
    · cases hr
    · next p _ =>
      exact permitAt?_keepResponse _ body hr fun head body he =>
        s.guard.permit_respond p ending he
  | _ => cases ha

/-- What has no permit changes nothing in the guard, and gets no permit. -/
theorem quiet_step {handle : Handle} (hp : s.permitAt? handle.place = none) {a : Action β ε}
    (ha : a = handle.poll ∨ a = handle.drop) :
    (s.step a).2.guard = s.guard ∧ (s.step a).2.permitAt? handle.place = none := by
  have hsource : a.source? = some handle.place := by
    obtain rfl | rfl := ha <;> cases handle <;> rfl
  have hh := step_handled (s := s) hsource
  generalize s.step a = r at hh ⊢
  cases hh with
  | missing => exact ⟨rfl, hp⟩
  | served left held ends own sets =>
    rw [permitAt?, held, Option.bind_some] at hp
    rw [hp] at ends
    obtain ⟨hleft, hg⟩ := ends.of_none
    refine ⟨sets.guard.trans hg, ?_⟩
    simp only [about]
    rw [permitAt?, sets.places, Function.update_self, hleft]

theorem quiet_run {handle : Handle} (hp : s.permitAt? handle.place = none)
    {later : List (Action β ε)} (hl : ∀ a ∈ later, a = handle.poll ∨ a = handle.drop) :
    (s.run later).guard = s.guard := by
  induction later generalizing s with
  | nil => rfl
  | cons a later ih =>
    obtain ⟨hg, hn⟩ := quiet_step hp (hl a List.mem_cons_self)
    exact (ih hn fun b hb => hl b (List.mem_cons_of_mem a hb)).trans hg

/-- In every run of a guard and for every key, each call that is attempted is admitted or makes one
refusal, and each call that was admitted has made one outcome or is still out. What has told the end
of its call can be polled and dropped without anything happening to the guard. -/
theorem calls_report_once (snapshot : Snapshot) (as : List (Action β ε)) :
    let start : Session α β ε := ofGuard (.ofSnapshot snapshot)
    let s := start.run as
    (∀ key,
      (start.attempts as).count key =
        (start.admissions as).count key +
          (s.guard.events.filterMap Event.rejection?).count key ∧
      (start.admissions as).count key =
        (s.guard.events.filterMap Event.outcome?).count key + s.out.countP (·.key = key)) ∧
    ∀ a handle, a.handle? = some handle → (s.step a).1.reply.terminal = true →
      ∀ later : List (Action β ε), (∀ b ∈ later, b = handle.poll ∨ b = handle.drop) →
        ((s.step a).2.run later).guard = (s.step a).2.guard := by
  intro start s
  refine ⟨fun key => ?_, fun a handle ha hr later hl =>
    quiet_run (permitAt?_of_terminal ha hr) hl⟩
  have ht : start.Tidy := tidy_ofGuard _
  obtain ⟨ds, hrun, hatt, hadm⟩ := ht.run_reaches as
  rw [← hatt, ← hadm]
  exact Custody.balance_of_run hrun key

end Session
end Turnstile
