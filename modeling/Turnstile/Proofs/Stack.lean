import Turnstile.Guard.Stack
import Turnstile.Proofs.Session.Abandon
import Mathlib.Data.List.Forall2
/-!
Rejections in a stack of guards. The answer of the guard that turns a request away is final for each
guard outside of it, and each of them ignores it: it passes through them as it is, and all that it
leaves behind is the free slot of the call and the word that its outcome was ignored.
-/
namespace Turnstile

namespace ResponseHead

theorem statusCode?_ofRejection (r : Rejection) :
    (ofRejection r).headers.statusCode? = some r.code := by
  have hfirst : (ofRejection r).headers.first? statusHeader = some (toString r.code.number) := by
    have hother : ("content-type".toLower == statusHeader.toLower) = false := by decide +kernel
    simp [ofRejection, ofStatus, Headers.first?, Headers.fields_ofList, hother]
  rw [Headers.statusCode?, Headers.readable?, hfirst]
  cases r <;> simp only [Rejection.code] <;> decide +kernel

theorem contains_ofRejection (r : Rejection) :
    (ofRejection r).headers.contains rejectionHeader = true := by
  simp [ofRejection, ofStatus, Headers.contains, Headers.first?, Headers.fields_ofList]

theorem isFinal_ofRejection (r : Rejection) : (ofRejection r).isFinal = true := by
  simp [isFinal, statusCode?_ofRejection]

/-- What another guard reads off a rejection is a status of the guard that answered. -/
theorem finalStatus_ofRejection (r : Rejection) : (ofRejection r).finalStatus = r.status := by
  simp [finalStatus, contains_ofRejection, statusCode?_ofRejection, Rejection.status]

end ResponseHead

namespace Guard

variable {α : Type} {g g' : Guard α} {p : Permit}

theorem Vanished.breaker (hv : Vanished g p g') {key : Key} {b : Breaker}
    (hb : g.breakers.breaker? key = some b) :
    ∃ b', g'.breakers.breaker? key = some b' ∧ b'.state = b.state ∧ b'.window = b.window ∧
      b'.probeSuccesses = b.probeSuccesses := by
  obtain ⟨entry, he, rfl⟩ := Option.map_eq_some_iff.1 hb
  by_cases hothers : p.breaker = none ∨ key ≠ p.key
  · refine ⟨entry.breaker, ?_, rfl, rfl, rfl⟩
    exact Breakers.breaker?_eq_of_some ((hv.others key hothers).trans he)
  · obtain ⟨hsome, hkey⟩ := not_or.1 hothers
    obtain ⟨permit, hpermit⟩ := Option.ne_none_iff_exists'.1 hsome
    obtain ⟨old, hold, hnew⟩ := hv.own permit hpermit
    rw [← not_not.1 hkey] at hold hnew
    cases he.symm.trans hold
    exact ⟨_, Breakers.breaker?_eq_of_some hnew, rfl, rfl, rfl⟩

theorem respond_rejection (g : Guard α) (p : Permit) (r : Rejection) :
    g.respond p (.finished (.ok ⟨.ofRejection r, []⟩)) =
      (.response (.ofRejection r) ⟨p.key, [], none⟩, (g.complete p r.status).2) := by
  simp [respond, passOn, ResponseHead.isFinal_ofRejection, ResponseHead.finalStatus_ofRejection]

end Guard

namespace Stack

variable {α β : Type} {r : Request} {gs : List (Guard α)} {layers : List (Layer α)}
  {rejection : Rejection} {refusing : Guard α} {inside : List (Guard α)}

theorem wait_at_once {γ : Type} (deadline : Option Span) (result : γ) :
    (Course.ends 0 result).wait deadline = .finished result := by
  cases deadline <;> simp [Course.wait]

theorem bound_at_once (layers : List (Layer α)) (result : Except Failure Response) :
    layers.foldr Layer.bound (.ends 0 result) = .ends 0 result := by
  induction layers with
  | nil => rfl
  | cons l layers ih => simp [ih, Layer.bound, wait_at_once]

theorem ascend_rejection (layers : List (Layer α)) (rejection : Rejection) :
    ascend layers (.ends 0 (.ok ⟨.ofRejection rejection, []⟩)) = layers.map fun l =>
      (.response (.ofRejection rejection) ⟨l.permit.key, [], none⟩,
       (l.guard.complete l.permit rejection.status).2) := by
  -- The answer is there at once for each layer, since no deadline inside can make it late.
  induction layers with
  | nil => rfl
  | cons l layers ih =>
    simp [ascend, bound_at_once, wait_at_once, Guard.respond_rejection, ih]

variable [Quantity α]

/-- A guard that has been asked and has let the request pass is the guard of the layer. -/
abbrev Admits (r : Request) (g : Guard α) (l : Layer α) : Prop :=
  g.enter r.path (.headers r.headers) = (.ok l.permit, l.guard)

/-- Where a request is stopped, all guards outside have let it pass, and none inside is asked. -/
theorem descend_stopped (hs : descend r gs = .stopped layers rejection refusing inside) :
    ∃ before g, gs = before ++ g :: inside ∧ List.Forall₂ (Admits r) before layers ∧
      g.enter r.path (.headers r.headers) = (.error rejection, refusing) := by
  induction gs generalizing layers with
  | nil => cases hs
  | cons g gs ih =>
    obtain ⟨answer, g', he⟩ : ∃ answer g', g.enter r.path (.headers r.headers) = (answer, g') :=
      ⟨_, _, rfl⟩
    cases answer with
    | error own =>
      simp only [descend, he] at hs
      cases hs
      exact ⟨[], g, rfl, .nil, he⟩
    | ok p =>
      simp only [descend, he] at hs
      cases hd : descend r gs with
      | through => simp [hd] at hs
      | stopped further own at' rest =>
        simp only [hd] at hs
        cases hs
        obtain ⟨before, stopping, hgs, hbefore, hrefused⟩ := ih hd
        exact ⟨g :: before, stopping, by rw [hgs]; rfl, .cons he hbefore, hrefused⟩

def reached (h : Snapshot × List (Action β)) : Guard α :=
  ((Session.ofGuard (.ofSnapshot h.1)).run h.2).guard

/-- What a rejection from inside leaves of the call of a layer: its outcome is ignored, its slot is
free, and nothing else has changed since the call was let in, least of all a breaker. -/
structure Ignores (rejection : Rejection) (l : Layer α) (after : Guard α) : Prop where
  completed : l.guard.complete l.permit rejection.status = (.ignored, after)
  vanished : Guard.Vanished l.guard l.permit after
  breaker : ∀ key b, l.guard.breakers.breaker? key = some b →
    ∃ b', after.breakers.breaker? key = some b' ∧ b'.state = b.state ∧ b'.window = b.window ∧
      b'.probeSuccesses = b.probeSuccesses

theorem ignores_of_admits {h : Snapshot × List (Action β)} {l : Layer α}
    (ha : Admits r (reached h) l) (rejection : Rejection) :
    Ignores rejection l (l.guard.complete l.permit rejection.status).2 := by
  have hsound := (Session.sound_run (α := α) h.1 h.2).step (.grant r.path _ ha)
  have hignored : l.guard.snapshot.classifier.classify rejection.status = .ignored :=
    Classifier.classify_guard _ _
  have hv := Guard.vanished_of_complete hsound hignored
  exact ⟨Prod.ext hignored rfl, hv, fun _ _ hb => hv.breaker hb⟩

theorem layers_ignore {before : List (Guard α)} (hb : List.Forall₂ (Admits r) before layers)
    (hreached : ∀ g ∈ before, ∃ h : Snapshot × List (Action β), reached h = g) :
    List.Forall₂ (Ignores rejection) layers
      (layers.map fun l => (l.guard.complete l.permit rejection.status).2) := by
  induction hb with
  | nil => exact .nil
  | cons admits _ ih =>
    obtain ⟨h, rfl⟩ := hreached _ List.mem_cons_self
    refine .cons (ignores_of_admits admits rejection) (ih ?_)
    intro g hg
    exact hreached g (List.mem_cons_of_mem _ hg)

/-- Whatever guards stand around a service, and in whatever state they are: when one of them turns a
request away, each guard outside of it passes on the answer as it is, without a frame and with no
permit left in the body, and ignores the call; the guards inside are left as they are, and the
service is not called. -/
theorem rejection_passes_through (histories : List (Snapshot × List (Action β))) {service : Service}
    (ready : service.notReady = none)
    (stopped : descend r (histories.map reached : List (Guard α)) =
      .stopped layers rejection refusing inside) :
    ∃ e before g after, exchange (histories.map reached : List (Guard α)) r service = .ok e ∧
      histories.map reached = before ++ g :: inside ∧ List.Forall₂ (Admits r) before layers ∧
      g.enter r.path (.headers r.headers) = (.error rejection, refusing) ∧
      e.called = false ∧
      e.results = (layers.map (·.permit.key) ++ [rejection.key]).map (fun key =>
        .response (.ofRejection rejection) ⟨key, [], none⟩) ∧
      e.guards = after ++ refusing :: inside ∧ List.Forall₂ (Ignores rejection) layers after := by
  obtain ⟨before, g, hgs, hbefore, hrefused⟩ := descend_stopped stopped
  refine ⟨_, before, g, layers.map fun l => (l.guard.complete l.permit rejection.status).2,
    by rw [exchange, ready], hgs, hbefore, hrefused, ?_, ?_, ?_, ?_⟩
  · rw [forward, stopped]
  · simp [forward, stopped, ascend_rejection]
  · simp [forward, stopped, ascend_rejection]
  · apply layers_ignore hbefore
    intro outer houter
    have hm : outer ∈ histories.map reached := hgs ▸ List.mem_append_left _ houter
    obtain ⟨h, -, hh⟩ := List.mem_map.1 hm
    exact ⟨h, hh⟩

def Descent.stop? : Descent α → Option (Rejection × List Bool)
  | .through _ => none
  | .stopped layers rejection _ _ => some (rejection, layers.map (·.permit.probe))

/-- The outer guard sends a probe, the middle one has no token left, and the classifier of the outer
one would count its answer as a failure: the probe is ignored all the same. -/
theorem probe_ignores_rejection :
    let t := { Thresholds.standard with minimumCalls := 1, cooldownMs := 1000 }
    let failing := { Config.standard with
      classifier := ⟨[.resourceExhausted, .unavailable], []⟩, circuitBreaking := ⟨true, t⟩ }
    let scarce := { Config.standard with rateLimiting := ⟨true, ⟨1, 1, 60000⟩⟩ }
    let histories : List (Snapshot × List (Action Unit)) :=
      [(.ofConfig 1 failing,
        [.enter "a" "m" .empty, .complete "a" (.ofCallee .unavailable), .advance (.ofSecs 1)]),
       (.ofConfig 1 scarce, [.enter "b" "m" .empty]), (.ofConfig 1 .standard, [])]
    let gs : List (Guard Rat) := histories.map reached
    let service : Service := ⟨none, ⟨0, .hangs none⟩⟩
    let answer := ResponseHead.ofRejection (.rateLimited ⟨"m"⟩)
    ∃ e l after, exchange gs ⟨"/m", .empty⟩ service = .ok e ∧ e.called = false ∧
      e.results = [.response answer ⟨l.permit.key, [], none⟩, .response answer ⟨⟨"m"⟩, [], none⟩] ∧
      l.permit.probe = true ∧ e.guards.head? = some after ∧
      Ignores (.rateLimited ⟨"m"⟩) l after := by
  intro t failing scarce histories gs service answer
  have hstop : (descend ⟨"/m", .empty⟩ gs).stop? = some (.rateLimited ⟨"m"⟩, [true]) := by
    decide +kernel
  cases hd : descend ⟨"/m", .empty⟩ gs with
  | through =>
    rw [hd] at hstop
    cases hstop
  | stopped layers rejection refusing inside =>
    have ready : service.notReady = none := rfl
    obtain ⟨e, -, -, after, he, -, -, -, hcalled, hresults, hguards, hignores⟩ :=
      rejection_passes_through histories ready hd
    simp only [hd, Descent.stop?, Option.some.injEq, Prod.mk.injEq] at hstop
    obtain ⟨rfl, hprobes⟩ := hstop
    obtain ⟨l, rfl, hprobe⟩ := List.map_eq_singleton_iff.1 hprobes
    obtain ⟨first, rest, hfirst, hnone, rfl⟩ := List.forall₂_cons_left_iff.1 hignores
    exact ⟨e, l, first, he, hcalled, hresults, hprobe, by rw [hguards]; rfl, hfirst⟩

end Stack
end Turnstile
