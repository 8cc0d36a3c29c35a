import Turnstile.Proofs.Session.Alike
/-!
Keys do not interfere. What a session does for one key can be told by what has been asked about this
key, and when, and by the upkeep in between; nothing that is done for other keys makes a difference.
-/
namespace Turnstile

deriving instance DecidableEq for Course, Work, Ending, StreamItem, Service, Action

/-- What in a run bears on a key. -/
inductive Bearing (β : Type) (ε : Type := CallStatus) where
  | asked (a : Action β ε)
  /-- What the key has at a place is given up, because something of another key is put there. -/
  | lost (pl : Place)
  deriving DecidableEq

theorem Shelf.mem_held {γ : Type} (f : γ → Option Permit) {sh : Shelf γ} {name : String} {c : γ}
    (hc : sh.get? name = some c) {p : Permit} (hp : p ∈ f c) : p ∈ sh.held f := by
  obtain ⟨e, he, rfl⟩ := Option.map_eq_some_iff.1 hc
  exact Multiset.mem_coe.2 (List.mem_filterMap.2 ⟨e, List.mem_of_find?_eq_some he, hp⟩)

namespace Session

variable {α β ε : Type} {s t s' t' s₁ : Session α β ε} {g g' : Guard α} {key : Key} {pl : Place}
  {target : Option Place}

section Foreign

/-- What an action about another key does to this one: nothing, unless what it puts at its target
displaces something there. -/
inductive Passing (key : Key) (target : Option Place) (s s' : Session α β ε) : Prop
  | aside (facet : s'.guard.facet key = s.guard.facet key)
      (still : ∀ pl, target = some pl → s'.at? pl = s.at? pl)
  | displacing {pl : Place} {h : Held β ε} {g : Guard α} (here : target = some pl)
      (put : s'.at? pl = some h) (foreign : h.key ≠ key) (facet : g.facet key = s.guard.facet key)
      (clock : g.now = s'.guard.now) (owns : g.OwnsHeld (s.at? pl))
      (guard : s'.guard = g.conclude ((s.at? pl).bind (·.permit?)) .cancelled)

theorem Passing.after (hp : Passing key target s₁ s')
    (hf : s₁.guard.facet key = s.guard.facet key)
    (hstill : ∀ pl, target = some pl → s₁.at? pl = s.at? pl) : Passing key target s s' := by
  cases hp with
  | aside facet still =>
    exact .aside (facet.trans hf) fun pl ht => (still pl ht).trans (hstill pl ht)
  | displacing here put foreign facet clock owns guard =>
    have hat := hstill _ here
    exact .displacing here put foreign (facet.trans hf) clock (hat ▸ owns) (hat ▸ guard)

theorem passing_withGuard (hf : g.facet key = s.guard.facet key) :
    Passing key target s { s with guard := g } :=
  .aside hf fun pl _ => congrFun (at?_withGuard s g) pl

theorem Sane.keeps_passing (hs : s.Sane) {h : Held β ε} (hk : s.Keeps pl h s') (hne : h.key ≠ key) :
    Passing key (some pl) s s' := by
  have hput : s'.at? pl = some h := by rw [hk.places, Function.update_self]
  refine .displacing rfl hput hne rfl ?_ (hs pl) hk.guard
  rw [hk.guard]
  cases (s.at? pl).bind (·.permit?) with
  | none => rfl
  | some p => exact (s.guard.complete_frame p .cancelled).1.symm

theorem Sane.keepResponse_passing (hs : s.Sane) (name : String) (result : ExchangeResult)
    (hne : ∀ head b, result = .response head b → b.key ≠ key) :
    Passing key (some (.body name)) s (s.keepResponse name result) := by
  cases result with
  | response head b => exact hs.keeps_passing (s.keeps_keep .bodies name b) (hne head b rfl)
  | failure | abandoned => exact .aside rfl fun _ _ => rfl

theorem Handled.passing {r : Answer α β ε × Session α β ε} (hh : Handled s pl r) (hs : s.Sane)
    (hk : r.1.key ≠ some key) : Passing key none s r.2 := by
  cases hh with
  | missing => exact .aside rfl fun _ _ => rfl
  | @served x left g s' held ends own sets =>
    have hne : x.key ≠ key := by simpa [about] using hk
    refine .aside (sets.guard ▸ ends.facet (hs pl x held) hne) fun pl ht => ?_
    cases ht

theorem Sane.endExchange_passing (hs : s.Sane) (name body : String)
    (ending : Ending (Except Failure Response))
    (hne : (s.endExchange name body ending).1.key ≠ some key) :
    Passing key (some (.body body)) s (s.endExchange name body ending).2 := by
  simp only [endExchange] at hne ⊢
  cases hp : s.requests.get? name with
  | none => exact .aside rfl fun _ _ => rfl
  | some p =>
    have hne : p.key ≠ key := by simpa [hp, about] using hne
    have hx : s.at? (.request name) = some (.permit p) := by simp [at?, hp]
    have he := s.guard.ends_respond p ending
    have hleft := Rack.Stands.requests.sets s (s.guard.respond p ending).2 name none
    have hkept := (hleft.sane hs he.stay).keepResponse_passing body (s.guard.respond p ending).1
      fun head b hb => (Guard.respond_body (β := β) (ε := ε) hb).1 ▸ hne
    refine hkept.after (he.facet (hs _ _ hx) hne) fun pl ht => ?_
    cases ht
    rw [hleft.places]
    exact Function.update_of_ne (by simp) _ _

variable [Quantity α] {method : String} {ctx : Context}

theorem Sane.ask_passing (hs : s.Sane) (hne : (s.guard.snapshot.extract method ctx).1 ≠ key)
    {reply : Permit → Reply α β ε} {keep : Session α β ε → Permit → Session α β ε}
    (hkeep : ∀ {s : Session α β ε} {p}, s.Sane → s.guard.Knows p → p.key ≠ key →
      Passing key target s (keep s p)) :
    Passing key target s (s.ask method ctx reply keep).2 := by
  have he := s.guard.enter_spec method ctx
  unfold ask
  generalize s.guard.enter method ctx = asked at he ⊢
  obtain ⟨answer, g⟩ := asked
  cases answer with
  | error r => exact passing_withGuard (he.facet hne)
  | ok p =>
    have hown : p.key ≠ key := he.permit.1 ▸ hne
    exact (hkeep (hs.withGuard he.stay) he.knows hown).after (he.facet hne) fun pl _ =>
      congrFun (at?_withGuard s g) pl

theorem Sane.exchange_passing (hs : s.Sane) (name : String) {r : Request} (service : Service)
    (hne : (s.guard.snapshot.extract r.path (.headers r.headers)).1 ≠ key) :
    Passing key (some (.body name)) s (s.exchange name r service).2 := by
  obtain ⟨-, -, -, hstay, -⟩ := Guard.exchange_congr (g := s.guard) (r := r) rfl rfl rfl service
  have hkept : Passing key (some (.body name)) { s with guard := _ } _ :=
    (hs.withGuard hstay).keepResponse_passing name (s.guard.exchange r service).1.result
      fun head b hb => (Guard.exchange_body (β := β) (ε := ε) hb).1 ▸ hne
  exact hkept.after (Guard.facet_exchange_of_ne hne service) fun pl _ =>
    congrFun (at?_withGuard s _) pl

theorem Sane.step_passing [CallFault ε] (hs : s.Sane) {a : Action β ε}
    (hk : (s.step a).1.key ≠ some key) (hup : a.upkeep = false) :
    Passing key a.target? s (s.step a).2 := by
  cases a with
  | enter name method ctx =>
    have hne : (s.guard.snapshot.extract method ctx).1 ≠ key := by
      simpa [step, enter, ask_key] using hk
    refine hs.ask_passing hne fun {s p} hs hknows hne => ?_
    by_cases hn : name.isEmpty
    · rw [s.keepPermit_of_isEmpty hn]
      exact passing_withGuard ((Guard.ends_abandon _ p).facet hknows.owns hne)
    · rw [Action.target?, if_neg hn]
      exact hs.keeps_passing (s.keeps_keepPermit (by simpa using hn) p) hne
  | startCall name method ctx =>
    have hne : (s.guard.snapshot.extract method ctx).1 ≠ key := by
      simpa [step, startCall, ask_key] using hk
    exact hs.ask_passing hne fun hs _ hne => hs.keeps_passing (keeps_keep _ .calls name _) hne
  | startExchange name r =>
    have hne : (s.guard.snapshot.extract r.path (.headers r.headers)).1 ≠ key := by
      simpa [step, startExchange, ask_key] using hk
    exact hs.ask_passing hne fun hs _ hne => hs.keeps_passing (keeps_keep _ .requests name _) hne
  | openStream name method ctx items =>
    simp only [step, openStream_eq] at hk ⊢
    have hne : (s.guard.snapshot.extract method ctx).1 ≠ key := by simpa [ask_key] using hk
    exact hs.ask_passing hne fun hs _ hne => hs.keeps_passing (keeps_keep _ .streams name _) hne
  | exchange name r service =>
    have hne : (s.guard.snapshot.extract r.path (.headers r.headers)).1 ≠ key := by
      simpa [step, exchange, about] using hk
    exact hs.exchange_passing name service hne
  | endExchange name body ending => exact hs.endExchange_passing name body ending hk
  | call method ctx work =>
    have hne : (s.guard.snapshot.extract method ctx).1 ≠ key := by simpa [step, about] using hk
    exact passing_withGuard (Guard.facet_call_of_ne hne work)
  | complete | drop | endCall | pollStream | dropStream | pollBody | dropBody =>
    exact (step_handled rfl).passing hs hk
  | available key' q =>
    have hne : key' ≠ key := by simpa [step, about] using hk
    exact passing_withGuard (Guard.facet_available_of_ne hne q)
  | advance span => exact passing_withGuard rfl
  | look | resolve => exact .aside rfl fun _ _ => rfl
  | replace | reload | reloadFile | sweep | runSweeper => cases hup

end Foreign

theorem mine_eq_none : s.mine key pl = none ↔ ∀ x ∈ s.at? pl, x.key ≠ key := by
  unfold mine
  cases s.at? pl with
  | none => simp [Held.of?]
  | some x =>
    by_cases hk : x.key = key
    · simp [Held.of?_own hk, hk]
    · simp [Held.of?_foreign hk, hk]

section Fit

theorem mem_out {x : Held β ε} (hx : s.at? pl = some x) {p : Permit} (hp : p ∈ x.permit?) :
    p ∈ s.out := by
  cases pl with
  | permit name | call name | request name =>
    obtain ⟨q, hq, rfl⟩ := Option.map_eq_some_iff.1 hx
    simp [out, Shelf.mem_held some hq hp]
  | stream name =>
    obtain ⟨stream, hq, rfl⟩ := Option.map_eq_some_iff.1 hx
    simp [out, Shelf.mem_held (·.permit) hq hp]
  | body name =>
    obtain ⟨b, hq, rfl⟩ := Option.map_eq_some_iff.1 hx
    simp [out, Shelf.mem_held (·.permit) hq hp]

variable [Quantity α]

theorem Fit.sane (hs : s.Fit) : s.Sane := by
  intro pl x hx p hp
  have hout : p ∈ s.custody.out := mem_out hx hp
  refine ⟨hs.labelled pl x hx p hp, fun permit hpermit => ?_⟩
  exact ⟨hs.sound.keyed p hout permit hpermit,
    hs.sound.pinned.present permit ((Multiset.mem_filterMap _ _).2 ⟨p, hout, hpermit⟩)⟩

end Fit

section Bearings

variable [Quantity α] [CallFault ε] {a b : Action β ε}

/-- The place where an action displaces something of the key. -/
def lost? (s : Session α β ε) (key : Key) (a : Action β ε) : Option Place :=
  a.target?.filter fun pl => (s.mine key pl).isSome && ((s.step a).2.mine key pl).isNone

theorem lost?_eq_some : s.lost? key a = some pl ↔
    a.target? = some pl ∧ s.mine key pl ≠ none ∧ (s.step a).2.mine key pl = none := by
  simp [lost?, Option.filter_eq_some_iff, Option.isSome_iff_ne_none]

theorem mine_step_foreign (hl : s.Labelled) (hk : (s.step a).1.key ≠ some key) (pl : Place) :
    (s.step a).2.mine key pl = if s.lost? key a = some pl then none else s.mine key pl := by
  by_cases hlost : s.lost? key a = some pl
  · rw [if_pos hlost, (lost?_eq_some.1 hlost).2.2]
  · rw [if_neg hlost]
    obtain heq | ⟨hold, hnew⟩ := step_moved hl a pl
    · rw [mine, heq, mine]
    · have hgone : (s.step a).2.mine key pl = none :=
        mine_eq_none.2 fun x hx he => hk ((hnew x hx).1.trans (congrArg some he))
      rw [hgone]
      symm
      obtain htarget | hsource := hold
      · by_contra hmine
        exact hlost (lost?_eq_some.2 ⟨htarget, hmine, hgone⟩)
      · exact mine_eq_none.2 fun x hx he => hk ((hsource x hx).trans (congrArg some he))

/-- To the key, an action about another one gives up what it displaces, and does nothing else. -/
theorem facet_step_foreign (hs : s.Sane) (hk : (s.step a).1.key ≠ some key)
    (hup : a.upkeep = false) :
    (s.step a).2.guard.facet key =
      ((s.guard.atInstant (s.step a).2.guard.now).conclude
        ((s.lost? key a).bind fun pl => Held.slot key (s.at? pl)) .cancelled).facet key := by
  cases hs.step_passing hk hup with
  | aside facet still =>
    have hlost : s.lost? key a = none := by
      refine Option.eq_none_iff_forall_ne_some.2 fun pl hl => ?_
      obtain ⟨htarget, hmine, hgone⟩ := lost?_eq_some.1 hl
      exact hmine (by rw [← hgone, mine, mine, still pl htarget])
    rw [hlost]
    exact facet
  | @displacing pl h g here put foreign facet clock owns guard =>
    -- What stood there is a loss to the key only if it was its own; a thing of a third key that is
    -- given up is no more to it than nothing at all, which is what `slot` says.
    have hgone : (s.step a).2.mine key pl = none := by
      rw [mine_eq_none, put]
      rintro x ⟨⟩
      exact foreign
    have hslot : ((s.lost? key a).bind fun pl => Held.slot key (s.at? pl)) =
        Held.slot key (s.at? pl) := by
      by_cases hm : s.mine key pl = none
      · have hlost : s.lost? key a = none := by
          refine Option.eq_none_iff_forall_ne_some.2 fun pl' hl => ?_
          obtain ⟨htarget, hmine, -⟩ := lost?_eq_some.1 hl
          cases here.symm.trans htarget
          exact hmine hm
        rw [hlost, Held.slot_eq_none (mine_eq_none.1 hm)]
        rfl
      · rw [lost?_eq_some.2 ⟨here, hm, hgone⟩, Option.bind_some]
    have hgiven := congrArg (·.facet key) guard
    have hown : (s.guard.atInstant (s.step a).2.guard.now).Owns key (Held.slot key (s.at? pl)) :=
      (hs pl).slot key
    rw [hslot]
    exact (hgiven.trans (Guard.facet_conclude owns key .cancelled)).trans
      (Guard.conclude_congr rfl (owns.slot key) hown (facet :) clock .cancelled)

theorem Alike.step_foreign (ha : Alike key s t) (hs : s.Sane) (ht : t.Sane) (hl : s.Labelled)
    (hl' : t.Labelled) (hk : (s.step a).1.key ≠ some key) (hk' : (t.step b).1.key ≠ some key)
    (hup : a.upkeep = false) (hup' : b.upkeep = false) (hlost : s.lost? key a = t.lost? key b)
    (hn : s.lost? key a ≠ none → (s.step a).2.guard.now = (t.step b).2.guard.now) :
    Alike key (s.step a).2 (t.step b).2 := by
  refine ⟨?_, funext fun pl => ?_⟩
  · rw [facet_step_foreign hs hk hup, facet_step_foreign ht hk' hup', ← hlost]
    cases hp : s.lost? key a with
    | none => exact ha.facet
    | some pl =>
      have hown : (s.guard.atInstant (s.step a).2.guard.now).Owns key (Held.slot key (s.at? pl)) :=
        (hs pl).slot key
      have hown' : (t.guard.atInstant (t.step b).2.guard.now).Owns key (Held.slot key (t.at? pl)) :=
        (ht pl).slot key
      exact Guard.conclude_congr (Held.slot_congr (congrFun ha.mine pl)) hown hown' ha.facet
        (hn (by simp [hp])) .cancelled
  · rw [mine_step_foreign hl hk, mine_step_foreign hl' hk', hlost, congrFun ha.mine pl]

/-- What in an action bears on the key, and when. -/
def bearing? (s : Session α β ε) (key : Key) (a : Action β ε) : Option (Instant × Bearing β ε) :=
  if (s.step a).1.key = some key ∨ a.upkeep = true then some (s.guard.now, .asked a)
  else (s.lost? key a).map fun pl => ((s.step a).2.guard.now, .lost pl)

def hear? (s : Session α β ε) (key : Key) (a : Action β ε) : Option (Answer α β ε) :=
  if (s.step a).1.key = some key then some (s.step a).1.unnumbered else none

theorem key_of_upkeep (hup : a.upkeep = true) : (s.step a).1.key = none := by
  cases a with
  | replace | reload | reloadFile | sweep | runSweeper => rfl
  | _ => cases hup

theorem hear?_foreign (hk : (s.step a).1.key ≠ some key) : s.hear? key a = none := if_neg hk

theorem bearing?_own (ho : (s.step a).1.key = some key ∨ a.upkeep = true) :
    s.bearing? key a = some (s.guard.now, .asked a) := if_pos ho

theorem bearing?_foreign (hf : ¬ ((s.step a).1.key = some key ∨ a.upkeep = true)) :
    s.bearing? key a = (s.lost? key a).map fun pl => ((s.step a).2.guard.now, .lost pl) := if_neg hf

theorem Fit.alike_of_unbearing (hs : s.Fit) (hc : s.bearing? key a = none) :
    Alike key (s.step a).2 s ∧ s.hear? key a = none := by
  by_cases ho : (s.step a).1.key = some key ∨ a.upkeep = true
  · rw [bearing?_own ho] at hc
    cases hc
  · have hlost : s.lost? key a = none := by simpa [bearing?_foreign ho] using hc
    obtain ⟨hk, hup⟩ := not_or.1 ho
    have hup : a.upkeep = false := by simpa using hup
    refine ⟨⟨?_, funext fun pl => ?_⟩, hear?_foreign hk⟩
    · rw [facet_step_foreign hs.sane hk hup, hlost]
      rfl
    · rw [mine_step_foreign hs.labelled hk, hlost]
      simp

theorem Alike.step (ha : Alike key s t) (hs : s.Fit) (ht : t.Fit)
    (hr : ∀ g ∈ s.swept? a, g.Roomy) (hr' : ∀ g ∈ t.swept? b, g.Roomy) {c : Instant × Bearing β ε}
    (hc : s.bearing? key a = some c) (hc' : t.bearing? key b = some c) :
    Alike key (s.step a).2 (t.step b).2 ∧ s.hear? key a = t.hear? key b := by
  by_cases ho : (s.step a).1.key = some key ∨ a.upkeep = true
  · rw [bearing?_own ho] at hc
    cases hc
    by_cases ho' : (t.step b).1.key = some key ∨ b.upkeep = true
    · rw [bearing?_own ho'] at hc'
      obtain ⟨hn, rfl⟩ : t.guard.now = s.guard.now ∧ b = a := by simpa using hc'
      by_cases hup : b.upkeep = true
      · refine ⟨ha.step_upkeep hn.symm hs.distinct ht.distinct hr hr' hup, ?_⟩
        rw [hear?_foreign (by simp [key_of_upkeep hup]), hear?_foreign (by simp [key_of_upkeep hup])]
      · have hk := ho.resolve_right hup
        obtain ⟨hanswer, hthen⟩ := ha.step_own hn.symm hs.sane ht.sane hk
        refine ⟨hthen, ?_⟩
        rw [hear?, if_pos hk, hear?, if_pos (ho'.resolve_right hup), hanswer]
    · rw [bearing?_foreign ho'] at hc'
      simp at hc'
  · rw [bearing?_foreign ho] at hc
    obtain ⟨pl, hlost, rfl⟩ := Option.map_eq_some_iff.1 hc
    by_cases ho' : (t.step b).1.key = some key ∨ b.upkeep = true
    · simp [bearing?_own ho'] at hc'
    · rw [bearing?_foreign ho'] at hc'
      obtain ⟨pl', hlost', he⟩ := Option.map_eq_some_iff.1 hc'
      obtain ⟨hn, rfl⟩ : (t.step b).2.guard.now = (s.step a).2.guard.now ∧ pl' = pl := by
        simpa using he
      obtain ⟨hk, hup⟩ := not_or.1 ho
      obtain ⟨hk', hup'⟩ := not_or.1 ho'
      rw [hear?_foreign hk, hear?_foreign hk']
      exact ⟨ha.step_foreign hs.sane ht.sane hs.labelled ht.labelled hk hk' (by simpa using hup)
        (by simpa using hup') (hlost.trans hlost'.symm) fun _ => hn.symm, rfl⟩

end Bearings

section Runs

variable [Quantity α] [CallFault ε]

def traced {γ : Type} (of : Session α β ε → Action β ε → Option γ) (s : Session α β ε) :
    List (Action β ε) → List γ
  | [] => []
  | a :: as => (of s a).toList ++ traced of (s.step a).2 as

def bearings (s : Session α β ε) (key : Key) (as : List (Action β ε)) :
    List (Instant × Bearing β ε) :=
  s.traced (·.bearing? key ·) as

def heard (s : Session α β ε) (key : Key) (as : List (Action β ε)) : List (Answer α β ε) :=
  s.traced (·.hear? key ·) as

/-- No sweep of the run evicts a key for room. -/
def RoomAlong (s : Session α β ε) (as : List (Action β ε)) : Prop :=
  ∀ g ∈ s.traced swept? as, g.Roomy

instance (s : Session α β ε) (as : List (Action β ε)) : Decidable (s.RoomAlong as) :=
  inferInstanceAs (Decidable (∀ g ∈ s.traced swept? as, g.Roomy))

theorem roomAlong_cons {a : Action β ε} {as : List (Action β ε)} :
    s.RoomAlong (a :: as) ↔ (∀ g ∈ s.swept? a, g.Roomy) ∧ (s.step a).2.RoomAlong as := by
  simp [RoomAlong, traced, or_imp, forall_and]

theorem Alike.run {as bs : List (Action β ε)} (ha : Alike key s t) (hs : s.Fit) (ht : t.Fit)
    (hr : s.RoomAlong as) (hr' : t.RoomAlong bs) (hc : s.bearings key as = t.bearings key bs) :
    s.heard key as = t.heard key bs ∧ Alike key (s.run as) (t.run bs) := by
  induction as generalizing s t bs with
  | nil =>
    -- All that is left in the other run does not bear on the key.
    induction bs generalizing t with
    | nil => exact ⟨rfl, ha⟩
    | cons b bs ih =>
      cases hb : t.bearing? key b with
      | some c => simp [bearings, traced, hb] at hc
      | none =>
        obtain ⟨hb', hh⟩ := ht.alike_of_unbearing hb
        have hc : s.bearings key [] = (t.step b).2.bearings key bs := by
          simpa [bearings, traced, hb] using hc
        obtain ⟨hheard, hthen⟩ := ih (ha.trans hb'.symm) (ht.step b) (roomAlong_cons.1 hr').2 hc
        exact ⟨by simpa [heard, traced, hh] using hheard, hthen⟩
  | cons a as ih =>
    obtain ⟨hfirst, hlater⟩ := roomAlong_cons.1 hr
    cases hc₁ : s.bearing? key a with
    | none =>
      obtain ⟨ha', hh⟩ := hs.alike_of_unbearing hc₁
      have hc : (s.step a).2.bearings key as = t.bearings key bs := by
        simpa [bearings, traced, hc₁] using hc
      obtain ⟨hheard, hthen⟩ := ih (ha'.trans ha) (hs.step a) ht hlater hr' hc
      exact ⟨by simpa [heard, traced, hh] using hheard, hthen⟩
    | some c =>
      -- The other run comes to the same after some actions that do not bear on the key.
      induction bs generalizing t with
      | nil => simp [bearings, traced, hc₁] at hc
      | cons b bs ihb =>
        obtain ⟨hfirst', hlater'⟩ := roomAlong_cons.1 hr'
        cases hc₂ : t.bearing? key b with
        | none =>
          obtain ⟨hb', hh⟩ := ht.alike_of_unbearing hc₂
          have hc : s.bearings key (a :: as) = (t.step b).2.bearings key bs := by
            simpa [bearings, traced, hc₂] using hc
          obtain ⟨hheard, hthen⟩ := ihb (ha.trans hb'.symm) (ht.step b) hlater' hc
          exact ⟨by simpa [heard, traced, hh] using hheard, hthen⟩
        | some c' =>
          obtain ⟨rfl, hc⟩ : c = c' ∧
              (s.step a).2.bearings key as = (t.step b).2.bearings key bs := by
            simpa [bearings, traced, hc₁, hc₂] using hc
          obtain ⟨hthen, hh⟩ := ha.step hs ht hfirst hfirst' hc₁ hc₂
          obtain ⟨hheard, hend⟩ := ih hthen (hs.step a) (ht.step b) hlater hlater' hc
          refine ⟨?_, hend⟩
          simp only [heard, traced] at hheard ⊢
          rw [hh, hheard]

/-- Two runs of a guard that are the same as far as one key goes: the same actions about it, at the
same instants, with the same upkeep in between, whatever else is done for other keys. Every action
about the key has the same answer in both, its events are the same, and so are its bucket and its
breaker at the end. -/
theorem keys_do_not_interfere (snapshot : Snapshot) (key : Key) (as bs : List (Action β ε))
    (hr : (ofGuard (.ofSnapshot snapshot) : Session α β ε).RoomAlong as)
    (hr' : (ofGuard (.ofSnapshot snapshot) : Session α β ε).RoomAlong bs)
    (hc : (ofGuard (.ofSnapshot snapshot) : Session α β ε).bearings key as =
      (ofGuard (.ofSnapshot snapshot) : Session α β ε).bearings key bs) :
    let start : Session α β ε := ofGuard (.ofSnapshot snapshot)
    let g := (start.run as).guard
    let g' := (start.run bs).guard
    start.heard key as = start.heard key bs ∧
      g.events.filter (·.key = key) = g'.events.filter (·.key = key) ∧
      g.limiter.get? key = g'.limiter.get? key ∧
      g.breakers.breaker? key = g'.breakers.breaker? key := by
  intro start g g'
  obtain ⟨hheard, ha⟩ := (Alike.refl key start).run (fit_start snapshot) (fit_start snapshot) hr hr' hc
  refine ⟨hheard, Guard.keyEvents_eq ha.facet, Guard.bucket_eq ha.facet, ?_⟩
  rw [Breakers.breaker?_eq_face?, Breakers.breaker?_eq_face?, Guard.circuit_eq ha.facet]

/-- What another key's failed call and the abandoned call of a third one do, while a permit is held,
goes unnoticed. -/
theorem crowd_goes_unnoticed :
    let t := { Thresholds.standard with minimumCalls := 1 }
    let c := { Config.standard with circuitBreaking := ⟨true, t⟩, retention := ⟨60, 30, 3⟩ }
    let start : Session Rat Unit := ofGuard (.ofSnapshot (.ofConfig 1 c))
    let alone : List (Action Unit) :=
      [.enter "p" "/m" (.headers .empty), .advance (.ofSecs 1), .complete "p" (.ofCallee .unavailable),
        .sweep, .replace Config.standard, .call "/m" (.headers .empty) ⟨0, .ends 0 (.ok ())⟩]
    let crowded : List (Action Unit) :=
      [.call "/n" (.headers .empty) ⟨0, .ends 0 (.error (.ofCallee .internal))⟩,
        .enter "p" "/m" (.headers .empty), .advance (.ofMillis 400),
        .startCall "q" "/o" (.headers .empty), .advance (.ofMillis 600),
        .complete "p" (.ofCallee .unavailable), .sweep, .drop "r", .replace Config.standard,
        .endCall "q" .abandoned, .call "/m" (.headers .empty) ⟨0, .ends 0 (.ok ())⟩]
    start.heard ⟨"m"⟩ alone = start.heard ⟨"m"⟩ crowded ∧
      (start.run alone).guard.breakers.breaker? ⟨"m"⟩ =
        (start.run crowded).guard.breakers.breaker? ⟨"m"⟩ ∧
      (start.run alone).guard.events ≠ (start.run crowded).guard.events ∧
      (start.run alone).guard.breakers.state? ⟨"m"⟩ = some .open := by
  intro t c start alone crowded
  have hroom : start.RoomAlong alone := by decide +kernel
  have hroom' : start.RoomAlong crowded := by decide +kernel
  have hbearings : start.bearings ⟨"m"⟩ alone = start.bearings ⟨"m"⟩ crowded := by decide +kernel
  have h := keys_do_not_interfere (.ofConfig 1 c) ⟨"m"⟩ alone crowded hroom hroom' hbearings
  refine ⟨h.1, ?_, ?_, ?_⟩
  · simpa only [start] using h.2.2.2
  · decide +kernel
  · decide +kernel

end Runs

end Session
end Turnstile
