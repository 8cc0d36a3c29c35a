import Turnstile.Proofs.Guard.Upkeep
import Turnstile.Proofs.Session.Places
/-!
Sessions that are alike to a key. The key finds the same facet in both guards, and the same things of
its own at the same places; what else there is in the one and in the other may differ. An action about
the key keeps two such sessions alike, and it has the same answer in both.
-/
namespace Turnstile

def Exchange.unnumbered (e : Exchange) : Exchange := { e with result := e.result.unnumbered }

def Reply.unnumbered {α β ε : Type} : Reply α β ε → Reply α β ε
  | .entered p => .entered p.unnumbered
  | .polled item left => .polled item left.unnumbered
  | .exchanged e => .exchanged e.unnumbered
  | .polledFrame frame left => .polledFrame frame left.unnumbered
  | reply => reply

/-- An answer as it is heard: the numbers of breakers are not. -/
def Answer.unnumbered {α β ε : Type} (a : Answer α β ε) : Answer α β ε :=
  { a with reply := a.reply.unnumbered }

/-- Whether an action is about all keys at once. -/
def Action.upkeep {β ε : Type} : Action β ε → Bool
  | .replace _ | .reload _ | .reloadFile _ | .sweep | .runSweeper _ => true
  | _ => false

namespace Held

variable {β ε : Type} {key : Key} {h : Held β ε} {x y : Option (Held β ε)}

theorem of?_own (hk : h.key = key) : of? key (some h) = some h.unnumbered := by
  simp [of?, Option.filter_some, hk]

theorem of?_foreign (hk : h.key ≠ key) : of? key (some h) = none := by
  simp [of?, Option.filter_some, hk]

theorem key_unnumbered (h : Held β ε) : h.unnumbered.key = h.key := by
  cases h <;> rfl

theorem of?_congr {h h' : Held β ε} (hm : h.unnumbered = h'.unnumbered) (key : Key) :
    of? key (some h) = of? key (some h') := by
  have hkey : h.key = h'.key := by rw [← key_unnumbered, hm, key_unnumbered]
  by_cases hk : h'.key = key
  · rw [of?_own (hkey.trans hk), of?_own hk, hm]
  · rw [of?_foreign (hkey ▸ hk), of?_foreign hk]

theorem permit?_unnumbered (h : Held β ε) :
    h.unnumbered.permit? = h.permit?.map (·.unnumbered) := by
  cases h <;> rfl

/-- The permit that is held for a key. -/
def slot (key : Key) (x : Option (Held β ε)) : Option Permit :=
  (x.filter (·.key = key)).bind (·.permit?)

theorem slot_own (hk : h.key = key) : slot key (some h) = h.permit? := by
  simp [slot, Option.filter_some, hk]

theorem slot_foreign (hk : h.key ≠ key) : slot key (some h) = none := by
  simp [slot, Option.filter_some, hk]

theorem slot_eq_none (hk : ∀ h ∈ x, h.key ≠ key) : slot key x = none := by
  cases x with
  | none => rfl
  | some h => exact slot_foreign (hk h rfl)

theorem slot_congr (hm : of? key x = of? key y) :
    (slot key x).map (·.unnumbered) = (slot key y).map (·.unnumbered) := by
  have hslot : ∀ x : Option (Held β ε), (slot key x).map (·.unnumbered) =
      (of? key x).bind (·.permit?) := by
    intro x
    unfold slot of?
    cases x.filter (·.key = key) with
    | none => rfl
    | some h => simp [permit?_unnumbered]
  rw [hslot, hslot, hm]

end Held

namespace Guard

variable {α β ε : Type} {g g' : Guard α} {key : Key} {x y : Option (Held β ε)}

def OwnsHeld (g : Guard α) (x : Option (Held β ε)) : Prop := ∀ h ∈ x, g.Owns h.key h.permit?

theorem OwnsHeld.slot (ho : g.OwnsHeld x) (key : Key) : g.Owns key (Held.slot key x) := by
  cases x with
  | none => exact fun _ hp => nomatch hp
  | some h =>
    by_cases hk : h.key = key
    · rw [Held.slot_own hk]
      exact hk ▸ ho h rfl
    · rw [Held.slot_foreign hk]
      exact fun _ hp => nomatch hp

/-- What is given up matters to its own key alone. -/
theorem facet_conclude (ho : g.OwnsHeld x) (key : Key) (status : CallStatus) :
    (g.conclude (x.bind (·.permit?)) status).facet key =
      (g.conclude (Held.slot key x) status).facet key := by
  cases x with
  | none => rfl
  | some h =>
    by_cases hk : h.key = key
    · rw [Held.slot_own hk, Option.bind_some]
    · rw [Held.slot_foreign hk]
      exact facet_conclude_of_ne (ho h rfl) hk status

theorem conclude_alike (hx : g.OwnsHeld x) (hy : g'.OwnsHeld y)
    (hm : Held.of? key x = Held.of? key y) (hf : g.facet key = g'.facet key) (hn : g.now = g'.now)
    (status : CallStatus) :
    (g.conclude (x.bind (·.permit?)) status).facet key =
      (g'.conclude (y.bind (·.permit?)) status).facet key := by
  rw [facet_conclude hx, facet_conclude hy]
  exact conclude_congr (Held.slot_congr hm) (hx.slot key) (hy.slot key) hf hn status

section Calls

variable [Quantity α] {method : String} {ctx : Context}

theorem call_congr [CallFault ε] (hf : g.facet key = g'.facet key) (hn : g.now = g'.now)
    (hkey : (g.snapshot.extract method ctx).1 = key) (w : Work (Except ε β)) :
    (g.call method ctx w).1 = (g'.call method ctx w).1 ∧
      (g.call method ctx w).2.facet key = (g'.call method ctx w).2.facet key := by
  have htwins := enter_twins hf hn hkey
  unfold call
  generalize g.enter method ctx = asked at htwins ⊢
  generalize g'.enter method ctx = asked' at htwins ⊢
  cases htwins with
  | refused own facet => exact ⟨rfl, facet⟩
  | @admitted p p' h h' own same facet clock knows knows' =>
    obtain ⟨hfacet, hclock⟩ := advance_congr facet clock w.clockShift
    simp only [await, (Permit.unnumbered_eq_iff.1 same).2.1]
    exact settle_congr hfacet hclock same knows knows' own _

theorem exchange_congr (hf : g.facet key = g'.facet key) (hn : g.now = g'.now) {r : Request}
    (hkey : (g.snapshot.extract r.path (.headers r.headers)).1 = key) (service : Service) :
    let e := g.exchange r service
    let e' := g'.exchange r service
    e.1.unnumbered = e'.1.unnumbered ∧ e.2.facet key = e'.2.facet key ∧ e.2.now = e'.2.now ∧
      g.breakers.Stay e.2.breakers ∧ g'.breakers.Stay e'.2.breakers := by
  cases hr : service.notReady with
  | some f =>
    simp only [exchange, hr]
    exact ⟨trivial, hf, hn, .refl _, .refl _⟩
  | none =>
    have htwins := enter_twins hf hn hkey
    simp only [exchange, hr, forward]
    generalize g.enter r.path (.headers r.headers) = asked at htwins ⊢
    generalize g'.enter r.path (.headers r.headers) = asked' at htwins ⊢
    cases htwins with
    | refused own facet clock stay stay' => exact ⟨rfl, facet, clock, stay, stay'⟩
    | @admitted p p' h h' own same facet clock knows knows' stay stay' =>
      obtain ⟨hfacet, hclock⟩ := advance_congr facet clock service.work.clockShift
      simp only [awaitResponse, (Permit.unnumbered_eq_iff.1 same).2.1]
      obtain ⟨hresult, hthen⟩ := respond_congr hfacet hclock same knows knows' own
        (service.work.course.wait p'.policy.deadline)
      have he := ends_respond (h.advance service.work.clockShift) p
        (service.work.course.wait p'.policy.deadline)
      have he' := ends_respond (h'.advance service.work.clockShift) p'
        (service.work.course.wait p'.policy.deadline)
      refine ⟨?_, hthen, by rw [he.now, he'.now, hclock], stay.trans he.stay, stay'.trans he'.stay⟩
      simp [Exchange.unnumbered, hresult]

theorem facet_call_of_ne [CallFault ε] (hne : (g.snapshot.extract method ctx).1 ≠ key)
    (w : Work (Except ε β)) : (g.call method ctx w).2.facet key = g.facet key := by
  have he := g.enter_spec method ctx
  unfold call
  generalize g.enter method ctx = asked at he ⊢
  obtain ⟨answer, g'⟩ := asked
  cases answer with
  | error r => exact he.facet hne
  | ok p =>
    have howns : (g'.advance w.clockShift).Owns p.key (some p) := he.knows.owns
    have hends := ends_settle (g'.advance w.clockShift) p (w.course.wait p.policy.deadline)
    exact (hends.facet howns (he.permit.1 ▸ hne)).trans (he.facet hne)

theorem facet_exchange_of_ne {r : Request}
    (hne : (g.snapshot.extract r.path (.headers r.headers)).1 ≠ key) (service : Service) :
    (g.exchange r service).2.facet key = g.facet key := by
  cases hr : service.notReady with
  | some f => simp only [exchange, hr]
  | none =>
    have he := g.enter_spec r.path (.headers r.headers)
    simp only [exchange, hr, forward]
    generalize g.enter r.path (.headers r.headers) = asked at he ⊢
    obtain ⟨answer, g'⟩ := asked
    cases answer with
    | error rejection => exact he.facet hne
    | ok p =>
      have howns : (g'.advance service.work.clockShift).Owns p.key (some p) := he.knows.owns
      have hends := ends_respond (g'.advance service.work.clockShift) p
        (service.work.course.wait p.policy.deadline)
      exact (hends.facet howns (he.permit.1 ▸ hne)).trans (he.facet hne)

end Calls

end Guard

namespace Session

variable {α β ε γ : Type} {s t s' t' : Session α β ε} {g g' : Guard α} {key : Key} {pl : Place}
  {rack : Rack α β ε γ} {place : String → Place} {held : γ → Held β ε}

def mine (s : Session α β ε) (key : Key) (pl : Place) : Option (Held β ε) := Held.of? key (s.at? pl)

/-- To the key, the two sessions are the same. -/
structure Alike (key : Key) (s t : Session α β ε) : Prop where
  facet : s.guard.facet key = t.guard.facet key
  mine : s.mine key = t.mine key

theorem Alike.refl (key : Key) (s : Session α β ε) : Alike key s s := ⟨rfl, rfl⟩

theorem Alike.symm (ha : Alike key s t) : Alike key t s := ⟨ha.facet.symm, ha.mine.symm⟩

theorem Alike.trans (ha : Alike key s t) (hb : Alike key t s') : Alike key s s' :=
  ⟨ha.facet.trans hb.facet, ha.mine.trans hb.mine⟩

def Sane (s : Session α β ε) : Prop := ∀ pl, s.guard.OwnsHeld (s.at? pl)

theorem Sane.withGuard (hs : s.Sane) {guard : Guard α} (hstay : s.guard.breakers.Stay guard.breakers) :
    ({ s with guard } : Session α β ε).Sane := by
  intro pl h hh
  rw [at?_withGuard] at hh
  exact (hs pl h hh).stay hstay

theorem Sets.sane (hset : s.Sets g pl none s') (hs : s.Sane)
    (hstay : s.guard.breakers.Stay g.breakers) : s'.Sane := by
  intro other h hh
  rw [hset.places] at hh
  rw [hset.guard]
  by_cases hp : other = pl
  · subst hp
    simp at hh
  · rw [Function.update_of_ne hp] at hh
    exact (hs other h hh).stay hstay

theorem Alike.withGuard (ha : Alike key s t) (hf : g.facet key = g'.facet key) :
    Alike key ({ s with guard := g } : Session α β ε) { t with guard := g' } := by
  refine ⟨hf, funext fun pl => ?_⟩
  have hm := congrFun ha.mine pl
  simpa [Session.mine, at?_withGuard] using hm

theorem Sets.alike {x y : Option (Held β ε)} (hs : s.Sets g pl x s') (ht : t.Sets g' pl y t')
    (ha : s.mine key = t.mine key) (hf : g.facet key = g'.facet key)
    (hm : Held.of? key x = Held.of? key y) : Alike key s' t' := by
  refine ⟨by rw [hs.guard, ht.guard, hf], funext fun other => ?_⟩
  have ho := congrFun ha other
  simp only [mine, hs.places, ht.places] at ho ⊢
  by_cases hp : other = pl
  · subst hp
    simpa using hm
  · simpa [hp] using ho

theorem Alike.keep (ha : Alike key s t) (hn : s.guard.now = t.guard.now) (hs : s.Sane) (ht : t.Sane)
    {x y : Held β ε} (hk : s.Keeps pl x s') (hk' : t.Keeps pl y t')
    (hm : x.unnumbered = y.unnumbered) : Alike key s' t' := by
  have hg := Guard.conclude_alike (hs pl) (ht pl) (congrFun ha.mine pl) ha.facet hn .cancelled
  exact Sets.alike hk hk' ha.mine hg (Held.of?_congr hm key)

theorem Alike.twin (ha : Alike key s t) {x : Held β ε} (hx : s.at? pl = some x)
    (hk : x.key = key) : ∃ y, t.at? pl = some y ∧ y.unnumbered = x.unnumbered := by
  have hm : Held.of? key (s.at? pl) = Held.of? key (t.at? pl) := congrFun ha.mine pl
  rw [hx, Held.of?_own hk] at hm
  cases hy : t.at? pl with
  | none => simp [Held.of?, hy] at hm
  | some y =>
    rw [hy] at hm
    by_cases hky : y.key = key
    · rw [Held.of?_own hky] at hm
      exact ⟨y, rfl, (Option.some.inj hm).symm⟩
    · rw [Held.of?_foreign hky] at hm
      cases hm

theorem Alike.keepResponse (ha : Alike key s t) (hn : s.guard.now = t.guard.now) (hs : s.Sane)
    (ht : t.Sane) (name : String) {result result' : ExchangeResult}
    (hr : result.unnumbered = result'.unnumbered) :
    Alike key (s.keepResponse name result) (t.keepResponse name result') := by
  cases result <;> cases result' <;> try cases hr
  case response.response head b head' b' =>
    have hb : b.unnumbered = b'.unnumbered := by
      simp only [ExchangeResult.unnumbered, ExchangeResult.response.injEq] at hr
      exact hr.2
    exact ha.keep hn hs ht (s.keeps_keep .bodies name b) (t.keeps_keep .bodies name b')
      (congrArg Held.body hb)
  all_goals exact ha

theorem Alike.shelf (ha : Alike key s t) (hs : s.Sane) (ht : t.Sane)
    (hr : rack.Stands place held) (name : String) {c : γ}
    (hc : (rack.shelf s).get? name = some c) (hk : (held c).key = key) :
    ∃ c', (rack.shelf t).get? name = some c' ∧ (held c).unnumbered = (held c').unnumbered ∧
      s.guard.Owns key (held c).permit? ∧ t.guard.Owns key (held c').permit? := by
  have hx : s.at? (place name) = some (held c) := by rw [hr.at?, hc, Option.map_some]
  obtain ⟨y, hy, hm⟩ := ha.twin hx hk
  obtain ⟨c', hc', rfl⟩ := Option.map_eq_some_iff.1 ((hr.at? t name).symm.trans hy)
  have hk' : (held c').key = key := by rw [← Held.key_unnumbered, hm, Held.key_unnumbered, hk]
  exact ⟨c', hc', hm.symm, hk ▸ hs _ _ hx, hk' ▸ ht _ _ hy⟩

/-- Two sessions have given the same answer, as it is heard, and are alike to the key then. -/
def Agree (key : Key) (x y : Answer α β ε × Session α β ε) : Prop :=
  x.1.unnumbered = y.1.unnumbered ∧ Alike key x.2 y.2

/-- To the key, the same comes of two things: it hears the same, finds the same left of them, and
finds the same facet in both guards. -/
structure Matched (key : Key) (held : γ → Held β ε) (x y : Reply α β ε × Option γ × Guard α) :
    Prop where
  reply : x.1.unnumbered = y.1.unnumbered
  left : x.2.1.map (fun c => (held c).unnumbered) = y.2.1.map fun c => (held c).unnumbered
  facet : x.2.2.facet key = y.2.2.facet key

theorem Matched.left_congr {x y : Reply α β ε × Option γ × Guard α} (hm : Matched key held x y) :
    Held.of? key (x.2.1.map held) = Held.of? key (y.2.1.map held) := by
  have hleft := hm.left
  generalize x.2.1 = left at hleft ⊢
  generalize y.2.1 = left' at hleft ⊢
  cases left <;> cases left' <;> try cases hleft
  case none.none => rfl
  case some.some c c' => exact Held.of?_congr (Option.some.inj hleft) key

section Own

variable (ha : Alike key s t) (hn : s.guard.now = t.guard.now) (hs : s.Sane) (ht : t.Sane)
  (name : String)
include ha hs ht

/-- What is done with a thing of the key in both sessions keeps them alike, if it does the same to
things that are alike. -/
theorem Alike.serve (hr : rack.Stands place held)
    {act : Guard α → γ → Reply α β ε × Option γ × Guard α}
    (hact : ∀ c c', (held c).unnumbered = (held c').unnumbered → (held c).key = key →
      s.guard.Owns key (held c).permit? → t.guard.Owns key (held c').permit? →
      Matched key held (act s.guard c) (act t.guard c'))
    (hk : (s.serve rack name act).1.key = some key) :
    Agree key (s.serve rack name act) (t.serve rack name act) := by
  unfold Session.serve at hk ⊢
  cases hc : (rack.shelf s).get? name with
  | none => simp [hc, plain] at hk
  | some c =>
    have hk : (held c).key = key := by simpa [hc, about, hr.key] using hk
    obtain ⟨c', hc', hm, ho, ho'⟩ := ha.shelf hs ht hr name hc hk
    have hmatched := hact c c' hm hk ho ho'
    have hkey : rack.key c = rack.key c' := by
      rw [hr.key, hr.key, ← Held.key_unnumbered, hm, Held.key_unnumbered]
    rw [hc']
    refine ⟨?_, (hr.sets s _ name _).alike (hr.sets t _ name _) ha.mine hmatched.facet
      hmatched.left_congr⟩
    simp only [about, Answer.unnumbered, hkey, hmatched.reply]

include hn

theorem Alike.discard (hr : rack.Stands place held)
    (hk : (s.discard rack name).1.key = some key) :
    Agree key (s.discard rack name) (t.discard rack name) := by
  refine ha.serve hs ht name hr (fun c c' hm _ ho ho' => ⟨rfl, rfl, ?_⟩) hk
  have hpermit : (held c).permit?.map (·.unnumbered) = (held c').permit?.map (·.unnumbered) := by
    rw [← Held.permit?_unnumbered, hm, Held.permit?_unnumbered]
  rw [hr.giveUp_eq, hr.giveUp_eq]
  exact Guard.conclude_congr hpermit ho ho' ha.facet hn .cancelled

theorem Alike.complete (status : CallStatus) (hk : (s.complete name status).1.key = some key) :
    Agree key (s.complete name status) (t.complete name status) := by
  refine ha.serve hs ht name .permits (fun p p' hm hown ho ho' => ?_) hk
  have hm : p.unnumbered = p'.unnumbered := Held.permit.inj hm
  obtain ⟨houtcome, hf⟩ :=
    Guard.complete_congr status ha.facet hn hm (ho p rfl).2 (ho' p' rfl).2 hown
  exact ⟨congrArg Reply.completed houtcome, rfl, hf⟩

theorem Alike.endCall [CallFault ε] (ending : Ending (Except ε β))
    (hk : (s.endCall name ending).1.key = some key) :
    Agree key (s.endCall name ending) (t.endCall name ending) := by
  refine ha.serve hs ht name .calls (fun p p' hm hown ho ho' => ?_) hk
  have hm : p.unnumbered = p'.unnumbered := Held.permit.inj hm
  obtain ⟨hresult, hf⟩ :=
    Guard.settle_congr ha.facet hn hm (ho p rfl).2 (ho' p' rfl).2 hown ending
  exact ⟨congrArg Reply.called hresult, rfl, hf⟩

theorem Alike.pollStream [CallFault ε] (hk : (s.pollStream name).1.key = some key) :
    Agree key (s.pollStream name) (t.pollStream name) := by
  refine ha.serve hs ht name .streams (fun stream stream' hm _ ho ho' => ?_) hk
  obtain ⟨hitem, hleft, hf⟩ :=
    GuardedStream.poll_congr (Held.stream.inj hm) ho ho' ha.facet hn
  refine ⟨?_, ?_, hf⟩
  · simp only [Reply.unnumbered, hitem, hleft]
  · simp only [Option.map_some, Held.unnumbered, hleft]

theorem Alike.pollBody (hk : (s.pollBody name).1.key = some key) :
    Agree key (s.pollBody name) (t.pollBody name) := by
  refine ha.serve hs ht name .bodies (fun b b' hm _ ho ho' => ?_) hk
  obtain ⟨hframe, hleft, hf⟩ := Body.poll_congr (Held.body.inj hm) ho ho' ha.facet hn
  refine ⟨?_, ?_, hf⟩
  · simp only [Reply.unnumbered, hframe, hleft]
  · simp only [Option.map_some, Held.unnumbered, hleft]

theorem Alike.endExchange (body : String) (ending : Ending (Except Failure Response))
    (hk : (s.endExchange name body ending).1.key = some key) :
    Agree key (s.endExchange name body ending) (t.endExchange name body ending) := by
  simp only [Session.endExchange] at hk ⊢
  cases hp : s.requests.get? name with
  | none => simp [hp, plain] at hk
  | some p =>
    have hk : p.key = key := by simpa [hp, about] using hk
    obtain ⟨p', hp', hm, ho, ho'⟩ := ha.shelf hs ht .requests name hp hk
    have hp' : t.requests.get? name = some p' := hp'
    have hm : p.unnumbered = p'.unnumbered := Held.permit.inj hm
    obtain ⟨hresult, hf⟩ :=
      Guard.respond_congr ha.facet hn hm (ho p rfl).2 (ho' p' rfl).2 hk ending
    have he := s.guard.ends_respond p ending
    have he' := t.guard.ends_respond p' ending
    have hclock : (s.guard.respond p ending).2.now = (t.guard.respond p' ending).2.now := by
      rw [he.now, he'.now, hn]
    have hleft := Rack.Stands.requests.sets s (s.guard.respond p ending).2 name none
    have hleft' := Rack.Stands.requests.sets t (t.guard.respond p' ending).2 name none
    rw [hp']
    refine ⟨?_, (hleft.alike hleft' ha.mine hf rfl).keepResponse hclock (hleft.sane hs he.stay)
      (hleft'.sane ht he'.stay) body hresult⟩
    simp [about, Answer.unnumbered, Reply.unnumbered, Exchange.unnumbered, hresult,
      (Permit.unnumbered_eq_iff.1 hm).1]

end Own

section Ask

variable [Quantity α] {method : String} {ctx : Context}

theorem Alike.ask (ha : Alike key s t) (hn : s.guard.now = t.guard.now) (hs : s.Sane) (ht : t.Sane)
    (hkey : (s.guard.snapshot.extract method ctx).1 = key) {reply : Permit → Reply α β ε}
    (hreply : ∀ p p', p.unnumbered = p'.unnumbered → (reply p).unnumbered = (reply p').unnumbered)
    {keep : Session α β ε → Permit → Session α β ε}
    (hkeep : ∀ {s t : Session α β ε} {p p'}, Alike key s t → s.guard.now = t.guard.now → s.Sane →
      t.Sane → p.key = key → p.unnumbered = p'.unnumbered → s.guard.Knows p → t.guard.Knows p' →
      Alike key (keep s p) (keep t p')) :
    Agree key (s.ask method ctx reply keep) (t.ask method ctx reply keep) := by
  have htwins := Guard.enter_twins ha.facet hn hkey
  unfold Session.ask
  generalize s.guard.enter method ctx = asked at htwins ⊢
  generalize t.guard.enter method ctx = asked' at htwins ⊢
  cases htwins with
  | refused own facet => exact ⟨rfl, ha.withGuard facet⟩
  | @admitted p p' h h' own same facet clock knows knows' stay stay' =>
    refine ⟨?_, hkeep (ha.withGuard facet) clock (hs.withGuard stay) (ht.withGuard stay') own same
      knows knows'⟩
    simp [about, Answer.unnumbered, hreply p p' same, (Permit.unnumbered_eq_iff.1 same).1]

theorem ask_key (s : Session α β ε) (method : String) (ctx : Context) (reply : Permit → Reply α β ε)
    (keep : Session α β ε → Permit → Session α β ε) :
    (s.ask method ctx reply keep).1.key = some (s.guard.snapshot.extract method ctx).1 := by
  have he := s.guard.enter_spec method ctx
  unfold Session.ask
  generalize s.guard.enter method ctx = asked at he ⊢
  obtain ⟨answer, g⟩ := asked
  cases answer with
  | error r => exact congrArg some he.rejection
  | ok p => exact congrArg some he.permit.1

theorem Alike.ask_keep (ha : Alike key s t) (hn : s.guard.now = t.guard.now) (hs : s.Sane)
    (ht : t.Sane) (hr : rack.Stands place held) (name : String) {mk : Permit → γ}
    (hmk : ∀ p p', p.unnumbered = p'.unnumbered →
      (held (mk p)).unnumbered = (held (mk p')).unnumbered)
    (hk : (s.ask method ctx (fun _ => .opened) fun s p => s.keep rack name (mk p)).1.key = some key) :
    Agree key (s.ask method ctx (fun _ => .opened) fun s p => s.keep rack name (mk p))
      (t.ask method ctx (fun _ => .opened) fun t p => t.keep rack name (mk p)) := by
  rw [ask_key] at hk
  refine ha.ask hn hs ht (Option.some.inj hk) (fun _ _ _ => rfl) ?_
  intro s t p p' ha hn hs ht _ hm _ _
  exact ha.keep hn hs ht (s.keeps_keep hr name _) (t.keeps_keep hr name _) (hmk p p' hm)

theorem Alike.call [CallFault ε] (ha : Alike key s t) (hn : s.guard.now = t.guard.now)
    (work : Work (Except ε β)) (hk : (s.step (.call method ctx work)).1.key = some key) :
    Agree key (s.step (.call method ctx work)) (t.step (.call method ctx work)) := by
  have hkey : (s.guard.snapshot.extract method ctx).1 = key := Option.some.inj hk
  obtain ⟨hresult, hf⟩ := Guard.call_congr ha.facet hn hkey work
  refine ⟨?_, ha.withGuard hf⟩
  simp [Session.step, about, hresult, Guard.snapshot_eq ha.facet]

theorem Alike.exchange (ha : Alike key s t) (hn : s.guard.now = t.guard.now) (hs : s.Sane)
    (ht : t.Sane) (name : String) (r : Request) (service : Service)
    (hk : (s.exchange name r service).1.key = some key) :
    Agree key (s.exchange name r service) (t.exchange name r service) := by
  have hkey : (s.guard.snapshot.extract r.path (.headers r.headers)).1 = key := Option.some.inj hk
  obtain ⟨he, hf, hclock, hstay, hstay'⟩ := Guard.exchange_congr ha.facet hn hkey service
  refine ⟨?_, (ha.withGuard hf).keepResponse hclock (hs.withGuard hstay) (ht.withGuard hstay') name
    (congrArg Exchange.result he)⟩
  simp [Session.exchange, about, Answer.unnumbered, Reply.unnumbered, he, Guard.snapshot_eq ha.facet]

theorem Alike.step_own [CallFault ε] (ha : Alike key s t) (hn : s.guard.now = t.guard.now)
    (hs : s.Sane) (ht : t.Sane) {a : Action β ε} (hk : (s.step a).1.key = some key) :
    Agree key (s.step a) (t.step a) := by
  cases a with
  | complete name status => exact ha.complete hn hs ht name status hk
  | drop name => exact ha.discard hn hs ht name .permits hk
  | call method ctx work => exact ha.call hn work hk
  | endCall name ending => exact ha.endCall hn hs ht name ending hk
  | pollStream name => exact ha.pollStream hn hs ht name hk
  | dropStream name => exact ha.discard hn hs ht name .streams hk
  | exchange name r service => exact ha.exchange hn hs ht name r service hk
  | endExchange name body ending => exact ha.endExchange hn hs ht name body ending hk
  | pollBody name => exact ha.pollBody hn hs ht name hk
  | dropBody name => exact ha.discard hn hs ht name .bodies hk
  | available key' q =>
    obtain rfl : key' = key := Option.some.inj hk
    obtain ⟨htokens, hf⟩ := Guard.available_congr ha.facet hn q
    refine ⟨?_, ha.withGuard hf⟩
    simp [Session.step, about, htokens]
  | look key' =>
    obtain rfl : key' = key := Option.some.inj hk
    refine ⟨?_, ha⟩
    simp [Session.step, about, Registry.contains, Breakers.state?, Breakers.breaker?_eq_face?,
      Guard.bucket_eq ha.facet, Guard.circuit_eq ha.facet]
  | enter name method ctx =>
    have hkey := Option.some.inj ((s.ask_key method ctx _ _).symm.trans hk)
    refine ha.ask hn hs ht hkey (fun p p' hm => by simp [Reply.unnumbered, hm]) ?_
    intro s t p p' ha hn hs ht hown hm hknows hknows'
    by_cases hname : name.isEmpty
    · rw [s.keepPermit_of_isEmpty hname, t.keepPermit_of_isEmpty hname]
      exact ha.withGuard (Guard.complete_congr .cancelled ha.facet hn hm hknows hknows' hown).2
    · have hname : name.isEmpty = false := by simpa using hname
      exact ha.keep hn hs ht (s.keeps_keepPermit hname p) (t.keeps_keepPermit hname p')
        (congrArg Held.permit hm)
  | startCall name method ctx =>
    exact ha.ask_keep hn hs ht .calls name (fun _ _ hm => congrArg Held.permit hm) hk
  | startExchange name r =>
    exact ha.ask_keep hn hs ht .requests name (fun _ _ hm => congrArg Held.permit hm) hk
  | openStream name method ctx items =>
    simp only [Session.step, openStream_eq] at hk ⊢
    refine ha.ask_keep hn hs ht .streams name (fun p p' hm => ?_) hk
    simp [Held.unnumbered, GuardedStream.unnumbered, hm, (Permit.unnumbered_eq_iff.1 hm).1]
  | advance | replace | reload | reloadFile | resolve | sweep | runSweeper => cases hk

/-- The guard as the first sweep of an action finds it, if the action makes one. -/
def swept? (s : Session α β ε) : Action β ε → Option (Guard α)
  | .sweep => some s.guard
  | .runSweeper wait => if s.guard.sweepsIn wait = 0 then none else some s.guard
  | _ => none

theorem Alike.step_upkeep [CallFault ε] (ha : Alike key s t) (hn : s.guard.now = t.guard.now)
    (hd : s.guard.Distinct) (hd' : t.guard.Distinct) {a : Action β ε}
    (hr : ∀ g ∈ s.swept? a, g.Roomy) (hr' : ∀ g ∈ t.swept? a, g.Roomy) (hup : a.upkeep = true) :
    Alike key (s.step a).2 (t.step a).2 := by
  cases a with
  | replace c => exact ha.withGuard (Guard.replace_congr ha.facet c).2
  | reload configs => exact ha.withGuard (Guard.reload_congr ha.facet configs)
  | reloadFile file => exact ha.withGuard (Guard.reloadFrom_congr ha.facet (Config.load file)).2
  | sweep =>
    exact ha.withGuard (Guard.sweep_congr ha.facet hn hd hd' (hr _ rfl) (hr' _ rfl))
  | runSweeper wait =>
    refine ha.withGuard (Guard.runSweeper_congr ha.facet hn hd hd' (fun hw => hr _ ?_)
      fun hw => hr' _ ?_) <;> simp [swept?, hw]
  | _ => cases hup

end Ask

end Session
end Turnstile
