import Turnstile.Guard.Upkeep
import Turnstile.Proofs.Breakers.Pins
import Turnstile.Proofs.Guard.Enter
import Mathlib.Algebra.Order.Group.Multiset
/-!
What happens to a guard, one deed at a time, with the permits that are out. A call that is let in
takes a permit out, and only a permit that is out can be settled. Each deed that admits, refuses or
settles a call is seen in the events, and no other deed is.
-/
namespace Turnstile

inductive Deed where
  | grant (p : Permit)
  | refuse (r : Rejection)
  | settle (p : Permit) (outcome : Outcome)
  | upkeep

namespace Deed

def attempted? : Deed → Option Key
  | .grant p => some p.key
  | .refuse r => some r.key
  | _ => none

def admitted? : Deed → Option Key
  | .grant p => some p.key
  | _ => none

def refused? : Deed → Option Key
  | .refuse r => some r.key
  | _ => none

def settled? : Deed → Option Key
  | .settle p _ => some p.key
  | _ => none

end Deed

namespace Guard

variable {α : Type}

theorem complete_outcome (g : Guard α) (p : Permit) (status : CallStatus) :
    (g.complete p status).1 = g.snapshot.classifier.classify status := rfl

theorem complete_frame (g : Guard α) (p : Permit) (status : CallStatus) :
    let done := (g.complete p status).2
    done.now = g.now ∧ done.snapshot = g.snapshot ∧ done.limiter = g.limiter ∧
      done.breakers = p.breaker.elim g.breakers fun permit =>
        (g.breakers.complete permit (g.complete p status).1 (g.now.since p.startedAt) g.now).2.2 := by
  unfold complete
  cases p.breaker <;> exact ⟨rfl, rfl, rfl, rfl⟩

theorem complete_events_eq (g : Guard α) (p : Permit) (status : CallStatus) :
    (g.complete p status).2.events = g.events ++
      (p.breaker.elim [] fun permit => Notice.events
        (g.breakers.complete permit (g.complete p status).1 (g.now.since p.startedAt) g.now).2.1) ++
      [.outcome p.key (g.complete p status).1] := by
  unfold complete
  cases p.breaker with
  | none =>
    rw [Option.elim_none, List.append_nil]
    exact events_report g _
  | some permit =>
    simp only [events_report, Option.elim_some]
    rfl

/-- Completing a call makes one outcome, after the changes of state that come of it. -/
theorem complete_events (g : Guard α) (p : Permit) (status : CallStatus) :
    ∃ changes : List Event, changes.filterMap Event.rejection? = [] ∧
      changes.filterMap Event.outcome? = [] ∧
      (g.complete p status).2.events =
        g.events ++ changes ++ [.outcome p.key (g.complete p status).1] := by
  refine ⟨_, ?_, ?_, g.complete_events_eq p status⟩ <;> cases p.breaker with
  | none => rfl
  | some permit =>
    obtain ⟨changes, hc⟩ := g.breakers.complete_events permit (g.complete p status).1
      (g.now.since p.startedAt) g.now
    rw [Option.elim_some, hc]
    simp [List.filterMap_map, Function.comp_def, Event.rejection?, Event.outcome?]

end Guard

/-- A guard and the permits that are out. -/
structure Custody (α : Type) where
  guard : Guard α
  out : Multiset Permit

namespace Custody

variable {α : Type} [Quantity α]

inductive Step (c : Custody α) : Deed → Custody α → Prop
  | grant {g p} (method : String) (ctx : Context) (entered : c.guard.enter method ctx = (.ok p, g)) :
      Step c (.grant p) ⟨g, p ::ₘ c.out⟩
  | refuse {g r} (method : String) (ctx : Context)
      (entered : c.guard.enter method ctx = (.error r, g)) : Step c (.refuse r) ⟨g, c.out⟩
  | settle {p rest} (status : CallStatus) (held : c.out = p ::ₘ rest) :
      Step c (.settle p (c.guard.complete p status).1) ⟨(c.guard.complete p status).2, rest⟩
  | advance (span : Span) : Step c .upkeep ⟨c.guard.advance span, c.out⟩
  | install {config snapshot}
      (compiled : Snapshot.compile (c.guard.snapshot.version + 1) config = .ok snapshot) :
      Step c .upkeep ⟨{ c.guard with snapshot }, c.out⟩
  | note (notices : List Notice) (eventless : Notice.events notices = []) :
      Step c .upkeep ⟨c.guard.report notices, c.out⟩
  | look (key : Key) (q : Quota) : Step c .upkeep ⟨(c.guard.available key q).2, c.out⟩
  | sweep : Step c .upkeep ⟨c.guard.sweep.2, c.out⟩

inductive Run : Custody α → List Deed → Custody α → Prop
  | nil (c : Custody α) : Run c [] c
  | cons {c c' c'' : Custody α} {d : Deed} {ds : List Deed} (step : Step c d c')
      (rest : Run c' ds c'') : Run c (d :: ds) c''

variable {c c' c'' : Custody α} {d : Deed} {ds es : List Deed}

theorem Step.run (hs : Step c d c') : Run c [d] c' := .cons hs (.nil c')

theorem Run.append (hr : Run c ds c') (hr' : Run c' es c'') : Run c (ds ++ es) c'' := by
  induction hr with
  | nil => exact hr'
  | cons step _ ih => exact .cons step (ih hr')

theorem Run.keeps {P : Custody α → Prop} (hr : Run c ds c')
    (step : ∀ {c d c'}, P c → Step c d c' → P c') (hp : P c) : P c' := by
  induction hr with
  | nil => exact hp
  | cons hs _ ih => exact ih (step hp hs)

theorem sweepNotices_eventless (name : String) (removed left : Nat) :
    Notice.events (Guard.sweepNotices name removed left) = [] := by
  unfold Guard.sweepNotices
  rw [Notice.events_append]
  split <;> rfl

theorem events_sweep (g : Guard α) : g.sweep.2.events = g.events := by
  unfold Guard.sweep
  rw [Guard.events_report, Notice.events_append, sweepNotices_eventless, sweepNotices_eventless]
  exact List.append_nil g.events

theorem Step.events (hs : Step c d c') :
    ∃ added, c'.guard.events = c.guard.events ++ added ∧
      added.filterMap Event.rejection? = d.refused?.toList ∧
      added.filterMap Event.outcome? = d.settled?.toList := by
  cases hs with
  | grant method ctx entered | refuse method ctx entered =>
    obtain ⟨changes, hc⟩ := (Guard.entry_of_enter entered).events
    refine ⟨_, hc.trans (List.append_assoc _ _ _), ?_, ?_⟩ <;>
      simp [List.filterMap_map, Function.comp_def, Guard.refusal, Event.rejection?,
        Event.outcome?, Deed.refused?, Deed.settled?]
  | settle status held =>
    obtain ⟨changes, hr, ho, he⟩ := c.guard.complete_events _ status
    refine ⟨changes ++ [_], he.trans (List.append_assoc _ _ _), ?_, ?_⟩
    · rw [List.filterMap_append, hr]
      rfl
    · rw [List.filterMap_append, ho]
      rfl
  | advance | install => exact ⟨[], (List.append_nil _).symm, rfl, rfl⟩
  | note notices eventless =>
    refine ⟨[], ?_, rfl, rfl⟩
    rw [Guard.events_report, eventless]
  | look key q => exact ⟨[], (List.append_nil _).symm, rfl, rfl⟩
  | sweep =>
    exact ⟨[], (events_sweep c.guard).trans (List.append_nil _).symm, rfl, rfl⟩

theorem Run.events (hr : Run c ds c') :
    c'.guard.events.filterMap Event.rejection? =
        c.guard.events.filterMap Event.rejection? ++ ds.filterMap Deed.refused? ∧
      c'.guard.events.filterMap Event.outcome? =
        c.guard.events.filterMap Event.outcome? ++ ds.filterMap Deed.settled? := by
  induction hr with
  | nil => simp
  | cons hs _ ih =>
    obtain ⟨added, he, hrej, hout⟩ := hs.events
    rw [ih.1, ih.2, he, List.filterMap_append, List.filterMap_append, hrej, hout]
    constructor
    · cases hd : Deed.refused? _ <;> simp [hd]
    · cases hd : Deed.settled? _ <;> simp [hd]

def keys (c : Custody α) : Multiset Key := c.out.map (·.key)

theorem Step.balance (hs : Step c d c') :
    c'.keys + d.settled?.toList = c.keys + d.admitted?.toList := by
  cases hs with
  | grant => simp [keys, Deed.settled?, Deed.admitted?, ← Multiset.singleton_add, add_comm]
  | settle status held =>
    simp [keys, held, Deed.settled?, Deed.admitted?, ← Multiset.singleton_add, add_comm]
  | _ => rfl

/-- What has been admitted is out or has been settled. -/
theorem Run.balance (hr : Run c ds c') :
    c'.keys + (ds.filterMap Deed.settled? : List Key) =
      c.keys + (ds.filterMap Deed.admitted? : List Key) := by
  induction hr with
  | nil => rfl
  | @cons c₁ c₂ c₃ d ds hs _ ih =>
    have hsplit : ∀ f : Deed → Option Key, ((d :: ds).filterMap f : Multiset Key) =
        (f d).toList + (ds.filterMap f : List Key) := by
      intro f
      cases hd : f d <;> simp [hd]
    have hb := hs.balance
    rw [hsplit, hsplit, add_left_comm, ih, ← add_assoc, ← add_assoc, ← hb, add_comm c₂.keys]

end Custody
end Turnstile
