import Turnstile.Proofs.Guard.Upkeep
import Turnstile.Proofs.Session.Run
import Mathlib.Logic.Function.Basic
/-!
Where a session keeps things. The five shelves are seen as one: a place is a shelf with a name, and at
a place there is a permit, a stream, a body or nothing. Each action changes what stands at one place,
or at two.
-/
namespace Turnstile

namespace Held

variable {β ε : Type}

def unnumbered : Held β ε → Held β ε
  | .permit p => .permit p.unnumbered
  | .stream s => .stream s.unnumbered
  | .body b => .body b.unnumbered

/-- What is held for a key, if it is. -/
def of? (key : Key) (h : Option (Held β ε)) : Option (Held β ε) :=
  (h.filter (·.key = key)).map (·.unnumbered)

def Labelled (h : Held β ε) : Prop := ∀ p ∈ h.permit?, p.key = h.key

end Held

theorem GuardedStream.key_poll {α β ε : Type} [CallFault ε] (s : GuardedStream β ε) (g : Guard α) :
    (s.poll g).2.1.key = s.key := by
  unfold poll
  split <;> simp [finish_eq]

theorem Body.key_poll {α : Type} (b : Body) (g : Guard α) : (b.poll g).2.1.key = b.key := by
  unfold poll
  split
  · simp [finish_eq]
  · dsimp only
    split <;> simp [finish_eq]

namespace Guard

variable {α β ε : Type} {g g' : Guard α}

theorem Ends.labelled {before after : Option Permit} (he : Ends g before after g') {key : Key}
    (hb : ∀ p ∈ before, p.key = key) : ∀ p ∈ after, p.key = key := by
  cases he with
  | kept => exact hb
  | reported => exact fun _ hp => nomatch hp

theorem respond_body {p : Permit} {ending : Ending (Except Failure Response)} {head : ResponseHead}
    {b : Body} (hr : (g.respond p ending).1 = .response head b) :
    b.key = p.key ∧ (Held.body b : Held β ε).Labelled := by
  have he := g.ends_respond p ending
  rw [hr] at he
  have hkey : b.key = p.key := by
    cases ending with
    | finished result =>
      cases result with
      | error => cases hr
      | ok r =>
        simp only [respond, passOn] at hr
        split at hr <;> cases hr <;> rfl
    | overdue =>
      cases hr
      rfl
    | abandoned => cases hr
  refine ⟨hkey, he.labelled fun q hq => ?_⟩
  cases hq
  exact hkey.symm

theorem exchange_body [Quantity α] {r : Request} {service : Service} {head : ResponseHead}
    {b : Body} (hr : (g.exchange r service).1.result = .response head b) :
    b.key = (g.snapshot.extract r.path (.headers r.headers)).1 ∧
      (Held.body b : Held β ε).Labelled := by
  cases hn : service.notReady with
  | some f => simp [exchange, hn] at hr
  | none =>
    obtain ⟨answer, g', he⟩ : ∃ answer g', g.enter r.path (.headers r.headers) = (answer, g') :=
      ⟨_, _, rfl⟩
    simp only [exchange, hn, forward, he] at hr
    cases answer with
    | error rejection =>
      cases hr
      refine ⟨(entry_of_enter he).rejection, fun p hp => ?_⟩
      cases hp
    | ok p =>
      obtain ⟨hkey, hl⟩ := respond_body (β := β) (ε := ε) hr
      exact ⟨hkey.trans (entry_of_enter he).permit.1, hl⟩

end Guard

def Action.target? {β ε : Type} : Action β ε → Option Place
  | .enter name _ _ => if name.isEmpty then none else some (.permit name)
  | .startCall name _ _ => some (.call name)
  | .startExchange name _ => some (.request name)
  | .openStream name _ _ _ => some (.stream name)
  | .exchange name _ _ | .endExchange _ name _ => some (.body name)
  | _ => none

/-- Where an action finds what it is about, if it is about something held and is done with it then or
leaves it there. -/
def Action.source? {β ε : Type} : Action β ε → Option Place
  | .complete name _ | .drop name => some (.permit name)
  | .endCall name _ => some (.call name)
  | .pollStream name | .dropStream name => some (.stream name)
  | .pollBody name | .dropBody name => some (.body name)
  | _ => none

namespace Session

variable {α β ε : Type}

def at? (s : Session α β ε) : Place → Option (Held β ε)
  | .permit name => (s.permits.get? name).map .permit
  | .call name => (s.calls.get? name).map .permit
  | .request name => (s.requests.get? name).map .permit
  | .stream name => (s.streams.get? name).map .stream
  | .body name => (s.bodies.get? name).map .body

/-- The same session with another guard and, at the place, with this or with nothing. -/
structure Sets (s : Session α β ε) (g : Guard α) (pl : Place) (h : Option (Held β ε))
    (s' : Session α β ε) : Prop where
  guard : s'.guard = g
  places : s'.at? = Function.update s.at? pl h

end Session

namespace Rack

open Session (Sets)

variable {α β ε γ : Type} {rack : Rack α β ε γ} {place : String → Place} {held : γ → Held β ε}

theorem Stands.key (hr : rack.Stands place held) (c : γ) : rack.key c = (held c).key := by
  cases hr <;> rfl

theorem Stands.at? (hr : rack.Stands place held) (s : Session α β ε) (name : String) :
    s.at? (place name) = ((rack.shelf s).get? name).map held := by
  cases hr <;> rfl

theorem Stands.sets (hr : rack.Stands place held) (s : Session α β ε) (g : Guard α)
    (name : String) (left : Option γ) :
    s.Sets g (place name) (left.map held)
      (rack.refit { s with guard := g } ((rack.shelf s).set name left)) := by
  constructor
  · cases hr <;> rfl
  · funext pl
    cases hr <;> cases pl <;>
      simp [Rack.permits, Rack.calls, Rack.requests, Rack.streams, Rack.bodies, Session.at?,
        Shelf.get?_set, Function.update_apply, apply_ite (Option.map _)]

theorem Stands.giveUp_eq (hr : rack.Stands place held) (c : γ) (g : Guard α) :
    rack.giveUp c g = g.conclude (held c).permit? .cancelled := by
  cases hr with
  | permits | calls | requests => rfl
  | streams => exact GuardedStream.drop_eq c g
  | bodies => exact Body.drop_eq c g

theorem Stands.displaced_eq (hr : rack.Stands place held) (g : Guard α) (old : Option γ) :
    old.elim g (rack.giveUp · g) = g.conclude ((old.map held).bind (·.permit?)) .cancelled := by
  cases old with
  | none => rfl
  | some c => exact hr.giveUp_eq c g

end Rack

namespace Session

variable {α β ε γ : Type}

/-- The same session with this at the place, where what stood there has been given up. -/
def Keeps (s : Session α β ε) (pl : Place) (h : Held β ε) (s' : Session α β ε) : Prop :=
  s.Sets (s.guard.conclude ((s.at? pl).bind (·.permit?)) .cancelled) pl (some h) s'

theorem keepPermit_of_isEmpty (s : Session α β ε) {name : String} (hn : name.isEmpty = true)
    (p : Permit) : s.keepPermit name p = { s with guard := s.guard.abandon p } := by
  rw [keepPermit, if_pos hn]

theorem keeps_keep {rack : Rack α β ε γ} {place : String → Place} {held : γ → Held β ε}
    (s : Session α β ε) (hr : rack.Stands place held) (name : String) (c : γ) :
    s.Keeps (place name) (held c) (s.keep rack name c) := by
  rw [Keeps, hr.at?, ← hr.displaced_eq]
  exact hr.sets s _ name (some c)

theorem keeps_keepPermit (s : Session α β ε) {name : String} (hn : name.isEmpty = false)
    (p : Permit) : s.Keeps (.permit name) (.permit p) (s.keepPermit name p) := by
  rw [keepPermit, if_neg (by simp [hn])]
  exact s.keeps_keep .permits name p

theorem at?_withGuard (s : Session α β ε) (guard : Guard α) :
    ({ s with guard } : Session α β ε).at? = s.at? := by
  funext pl
  cases pl <;> rfl

/-- A place changes only if it is the target or what stood there is of this key, and what stands
there afterwards is of this key. -/
def Moved (key : Option Key) (target : Option Place) (s s' : Session α β ε) : Prop :=
  ∀ pl, s'.at? pl = s.at? pl ∨
    (target = some pl ∨ ∀ x ∈ s.at? pl, key = some x.key) ∧
      ∀ x ∈ s'.at? pl, key = some x.key ∧ x.Labelled

def Labelled (s : Session α β ε) : Prop := ∀ pl, ∀ x ∈ s.at? pl, x.Labelled

section Moved

variable {s s' s'' : Session α β ε} {g : Guard α} {pl : Place} {key : Option Key}
  {target : Option Place} {h : Option (Held β ε)}

theorem moved_withGuard (s : Session α β ε) (guard : Guard α) :
    Moved key target s { s with guard } :=
  fun _ => .inl (by rw [at?_withGuard])

theorem Sets.moved (hs : s.Sets g pl h s')
    (hold : target = some pl ∨ ∀ x ∈ s.at? pl, key = some x.key)
    (hnew : ∀ x ∈ h, key = some x.key ∧ x.Labelled) : Moved key target s s' := by
  intro other
  rw [hs.places]
  by_cases hp : other = pl
  · subst hp
    rw [Function.update_self]
    exact .inr ⟨hold, hnew⟩
  · rw [Function.update_of_ne hp]
    exact .inl rfl

theorem Moved.trans (hm : Moved key target s s') (hm' : Moved key target s' s'') :
    Moved key target s s'' := by
  intro pl
  obtain heq | ⟨hold, hnew⟩ := hm' pl
  · rw [heq]
    exact hm pl
  · refine .inr ⟨?_, hnew⟩
    obtain heq | ⟨hold', -⟩ := hm pl
    · rwa [heq] at hold
    · exact hold'

theorem Moved.labelled (hm : Moved key target s s') (hl : s.Labelled) : s'.Labelled := by
  intro pl x hx
  obtain heq | ⟨-, hnew⟩ := hm pl
  · exact hl pl x (heq ▸ hx)
  · exact (hnew x hx).2

theorem keepResponse_moved (s : Session α β ε) (name : String) {result : ExchangeResult}
    (hr : ∀ head b, result = .response head b →
      key = some b.key ∧ (Held.body b : Held β ε).Labelled) :
    Moved key (some (.body name)) s (s.keepResponse name result) := by
  cases result with
  | response head b =>
    refine Sets.moved (s.keeps_keep .bodies name b) (.inl rfl) fun x hx => ?_
    cases hx
    exact hr head b rfl
  | failure | abandoned => exact fun _ => .inl rfl

end Moved

section Step

variable {s s' : Session α β ε} {pl : Place} {h x : Held β ε}

theorem labelled_permit (p : Permit) : (Held.permit p : Held β ε).Labelled := by
  rintro q ⟨⟩
  rfl

theorem keeps_moved (hk : s.Keeps pl h s') (hl : h.Labelled) :
    Moved (some h.key) (some pl) s s' := by
  refine Sets.moved hk (.inl rfl) ?_
  rintro x ⟨⟩
  exact ⟨rfl, hl⟩

/-- What comes of an action about something held. -/
inductive Handled (s : Session α β ε) (pl : Place) : Answer α β ε × Session α β ε → Prop
  | missing : Handled s pl (plain .nothingHeld s)
  | served {x : Held β ε} (left : Option (Held β ε)) {g : Guard α} {s' : Session α β ε}
      (held : s.at? pl = some x) (ends : Guard.Ends s.guard x.permit? (left.bind (·.permit?)) g)
      (own : ∀ y ∈ left, y.key = x.key) (sets : s.Sets g pl left s') (reply : Reply α β ε) :
      Handled s pl (about x.key reply s')

theorem Handled.moved {r : Answer α β ε × Session α β ε} (hh : Handled s pl r) (hl : s.Labelled)
    (target : Option Place) : Moved r.1.key target s r.2 := by
  cases hh with
  | missing => exact fun _ => .inl rfl
  | @served x left g s' held ends own sets =>
    refine sets.moved (.inr fun y hy => ?_) fun y hy => ⟨congrArg some (own y hy).symm, ?_⟩
    · rw [held] at hy
      cases hy
      rfl
    · cases hy
      exact ends.labelled fun p hp => (hl pl x held p hp).trans (own y rfl).symm

theorem serve_handled {γ : Type} {rack : Rack α β ε γ} {place : String → Place}
    {held : γ → Held β ε} (s : Session α β ε) (hr : rack.Stands place held) (name : String)
    {act : Guard α → γ → Reply α β ε × Option γ × Guard α}
    (hends : ∀ c, Guard.Ends s.guard (held c).permit?
      ((act s.guard c).2.1.bind fun c => (held c).permit?) (act s.guard c).2.2)
    (hown : ∀ c, ∀ left ∈ (act s.guard c).2.1, (held left).key = (held c).key) :
    Handled s (place name) (s.serve rack name act) := by
  unfold serve
  cases hc : (rack.shelf s).get? name with
  | none => exact .missing
  | some c =>
    have hx : s.at? (place name) = some (held c) := by rw [hr.at?, hc, Option.map_some]
    dsimp only
    rw [hr.key]
    refine .served ((act s.guard c).2.1.map held) hx ?_ ?_ (hr.sets s _ name _) _
    · rw [Option.bind_map]
      exact hends c
    · rintro y hy
      obtain ⟨left, hl, rfl⟩ := Option.map_eq_some_iff.1 hy
      exact hown c left hl

theorem serve_ended {γ : Type} {rack : Rack α β ε γ} {place : String → Place}
    {held : γ → Held β ε} (s : Session α β ε) (hr : rack.Stands place held) (name : String)
    {act : Guard α → γ → Reply α β ε × Option γ × Guard α}
    (hleft : ∀ c, (act s.guard c).2.1 = none)
    (hends : ∀ c, Guard.Ends s.guard (held c).permit? none (act s.guard c).2.2) :
    Handled s (place name) (s.serve rack name act) := by
  refine s.serve_handled hr name (fun c => ?_) fun c left hl => ?_
  · rw [hleft]
    exact hends c
  · rw [hleft] at hl
    cases hl

theorem Sets.cleared {g : Guard α} (hs : s.Sets g pl none s') (hx : s.at? pl = some x)
    (target : Option Place) : Moved (some x.key) target s s' := by
  refine hs.moved (.inr fun y hy => ?_) fun _ hy => nomatch hy
  rw [hx] at hy
  cases hy
  rfl

theorem labelled_ofGuard (g : Guard α) : (ofGuard g : Session α β ε).Labelled := by
  intro pl x hx
  cases pl <;> cases hx

variable [Quantity α]

theorem ask_moved (method : String) (ctx : Context) {reply : Permit → Reply α β ε}
    {keep : Session α β ε → Permit → Session α β ε} {target : Option Place}
    (hkeep : ∀ s p, Moved (some p.key) target s (keep s p)) :
    Moved (s.ask method ctx reply keep).1.key target s (s.ask method ctx reply keep).2 := by
  unfold ask
  split
  · exact moved_withGuard s _
  · exact (moved_withGuard s _).trans (hkeep _ _)

theorem step_handled [CallFault ε] {a : Action β ε} (ha : a.source? = some pl) :
    Handled s pl (s.step a) := by
  cases a with
  | complete name status =>
    cases ha
    rw [step, complete]
    exact s.serve_ended .permits name (fun _ => rfl) fun p => .reported p status
  | drop name =>
    cases ha
    rw [step, discard]
    exact s.serve_ended .permits name (fun _ => rfl) s.guard.ends_abandon
  | endCall name ending =>
    cases ha
    rw [step, endCall]
    exact s.serve_ended .calls name (fun _ => rfl) (s.guard.ends_settle · ending)
  | pollStream name =>
    cases ha
    rw [step, pollStream]
    refine s.serve_handled .streams name (Guard.ends_poll_stream · s.guard) ?_
    rintro stream left ⟨⟩
    exact stream.key_poll s.guard
  | dropStream name =>
    cases ha
    rw [step, discard]
    exact s.serve_ended .streams name (fun _ => rfl) (Guard.ends_drop_stream · s.guard)
  | pollBody name =>
    cases ha
    rw [step, pollBody]
    refine s.serve_handled .bodies name (Guard.ends_poll_body · s.guard) ?_
    rintro b left ⟨⟩
    exact b.key_poll s.guard
  | dropBody name =>
    cases ha
    rw [step, discard]
    exact s.serve_ended .bodies name (fun _ => rfl) (Guard.ends_drop_body · s.guard)
  | _ => cases ha

theorem step_moved [CallFault ε] (hl : s.Labelled) (a : Action β ε) :
    Moved (s.step a).1.key a.target? s (s.step a).2 := by
  cases a with
  | enter name method ctx =>
    refine ask_moved method ctx fun s p => ?_
    by_cases hn : name.isEmpty
    · rw [s.keepPermit_of_isEmpty hn]
      exact moved_withGuard s _
    · rw [Action.target?, if_neg hn]
      exact keeps_moved (s.keeps_keepPermit (by simpa using hn) p) (labelled_permit p)
  | startCall name method ctx =>
    exact ask_moved method ctx fun s p =>
      keeps_moved (s.keeps_keep .calls name p) (labelled_permit p)
  | startExchange name r =>
    exact ask_moved r.path (.headers r.headers) fun s p =>
      keeps_moved (s.keeps_keep .requests name p) (labelled_permit p)
  | openStream name method ctx items =>
    rw [step, openStream_eq]
    refine ask_moved method ctx fun s p => ?_
    refine keeps_moved (s.keeps_keep .streams name ⟨p.key, items, some p⟩) ?_
    rintro q ⟨⟩
    rfl
  | exchange name r service =>
    refine (moved_withGuard s _).trans (keepResponse_moved _ name fun head b hr => ?_)
    obtain ⟨hkey, hb⟩ := Guard.exchange_body hr
    exact ⟨congrArg some hkey.symm, hb⟩
  | endExchange name body ending =>
    simp only [step, endExchange]
    cases hp : s.requests.get? name with
    | none => exact fun _ => .inl rfl
    | some p =>
      have hx : s.at? (.request name) = some (.permit p) := by simp [at?, hp]
      have hleft := Rack.Stands.requests.sets s (s.guard.respond p ending).2 name none
      refine (hleft.cleared hx _).trans (keepResponse_moved _ body fun head b hr => ?_)
      obtain ⟨hkey, hb⟩ := Guard.respond_body hr
      exact ⟨congrArg some hkey.symm, hb⟩
  | complete | drop | endCall | pollStream | dropStream | pollBody | dropBody =>
    exact (step_handled rfl).moved hl none
  | call | advance | replace | reload | reloadFile | available | sweep | runSweeper =>
    exact moved_withGuard s _
  | resolve | look => exact fun _ => .inl rfl

end Step

/-- A session that has come about in a run. -/
structure Fit [Quantity α] (s : Session α β ε) : Prop where
  tidy : s.Tidy
  sound : s.custody.Sound
  labelled : s.Labelled
  limiter : s.guard.limiter.Distinct

section Fit

variable [Quantity α] {s : Session α β ε}

theorem fit_start (snapshot : Snapshot) : (ofGuard (.ofSnapshot snapshot) : Session α β ε).Fit where
  tidy := tidy_ofGuard _
  sound := Custody.sound_start snapshot
  labelled := labelled_ofGuard _
  limiter := Registry.distinct_empty

theorem Fit.step [CallFault ε] (hs : s.Fit) (a : Action β ε) : (s.step a).2.Fit := by
  obtain ⟨ds, hr, -⟩ := hs.tidy.step_reaches a
  refine ⟨hs.tidy.step a, hr.sound hs.sound, (step_moved hs.labelled a).labelled hs.labelled, ?_⟩
  exact hr.keeps (P := fun c => c.guard.limiter.Distinct) (fun hd hs => hs.distinct hd) hs.limiter

theorem Fit.distinct (hs : s.Fit) : s.guard.Distinct := ⟨hs.limiter, hs.sound.pinned.distinct⟩

end Fit

end Session
end Turnstile
