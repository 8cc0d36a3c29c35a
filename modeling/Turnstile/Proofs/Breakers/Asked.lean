import Turnstile.Policy
import Turnstile.Proofs.Breaker.Cooldown
import Turnstile.Proofs.Breakers.Run
/-!
What comes of asking the breaker of a key, and of telling it an outcome. A refusal changes next to
nothing, an admission takes one slot, and no other key is touched or heard of.
-/
namespace Turnstile

namespace Notice

theorem events_append (ns ms : List Notice) : events (ns ++ ms) = events ns ++ events ms :=
  List.filterMap_append

theorem events_announced (key : Key) (change : Option Transition) :
    events (Breakers.announced key change) = change.toList.map (.transition key) := by
  cases change <;> rfl

end Notice

namespace Breakers

theorem acquire_events (r : Breakers) (key : Key) (t : Thresholds) (now : Instant) :
    Notice.events (r.acquire key t now).2.1 =
      ((r.entryFor key t now).1.breaker.acquire t now).2.1.toList.map (.transition key) := by
  simp only [acquire]
  split
  · exact Notice.events_announced key _
  · rw [Notice.events_append, Notice.events_announced]
    exact List.append_nil _

theorem report_events (key : Key) (ticket : Ticket) (outcome : Outcome) (elapsed : Span)
    (now : Instant) (entry : BreakerEntry) :
    Notice.events (report key ticket outcome elapsed now entry).2.1 =
      (entry.breaker.record ticket outcome elapsed now).2.1.toList.map (.transition key) := by
  simp only [report]
  rw [Notice.events_append, Notice.events_announced]
  split <;> rfl

theorem complete_events (r : Breakers) (permit : BreakerPermit) (outcome : Outcome)
    (elapsed : Span) (now : Instant) :
    ∃ changes : List Transition,
      Notice.events (r.complete permit outcome elapsed now).2.1 =
        changes.map (.transition permit.key) := by
  simp only [complete]
  split
  · exact ⟨[], rfl⟩
  · exact ⟨_, report_events _ _ _ _ _ _⟩

end Breakers

namespace Breaker

variable {b b' : Breaker} {t : Thresholds} {now : Instant} {change : Option Transition}

/-- What a refusal does to a breaker: it adopts the thresholds, or it opens again over a probe that
has been out for too long. -/
inductive Refusal (t : Thresholds) (now : Instant) (b : Breaker) :
    Option Transition → Breaker → Prop
  | still : Refusal t now b none (b.refused t now)
  | overdue (state : b.state = .halfOpen) (late : (b.asked t now).probeOverdue now = true) :
      Refusal t now b (some ⟨.halfOpen, .open⟩) ((b.refused t now).moveTo .open now)

theorem acquire_rejected (hb : b.Shape) {state : Circuit} {denial : Denial}
    (ha : b.acquire t now = (.rejected state denial, change, b')) :
    b.state ≠ .closed ∧ Refusal t now b change b' := by
  have hs := step_acquire t now b
  simp only [step, ha] at hs
  cases hs with
  | refuse _ _ state =>
    have hn : b.state ≠ .closed := by simp [state]
    exact ⟨hn, hb.asked_eq_refused hn t now ▸ .still⟩
  | expire _ _ state overdue =>
    have hn : b.state ≠ .closed := by simp [state]
    exact ⟨hn, hb.asked_eq_refused hn t now ▸ .overdue state overdue⟩
  | exhaust _ _ state =>
    have hn : b.state ≠ .closed := by simp [state]
    exact ⟨hn, hb.asked_eq_refused hn t now ▸ .still⟩

theorem Refusal.samples (hr : Refusal t now b change b') (hb : b.Shape) (hn : b.state ≠ .closed) :
    b'.window.samples = b.window.samples := by
  cases hr with
  | still => rfl
  | overdue => exact (hb.samples hn).symm

theorem Refusal.inFlight_subset (hr : Refusal t now b change b') : b'.inFlight ⊆ b.inFlight := by
  cases hr with
  | still => exact List.Subset.refl _
  | overdue => exact List.nil_subset _

theorem acquire_admitted (hb : b.Shape) {ticket : Ticket} {probe : Bool}
    (ha : b.acquire t now = (.admitted ticket probe, change, b')) :
    ticket.epoch = b'.epoch ∧ b'.inFlight = b.inFlight ++ [⟨ticket.number, probe, now⟩] := by
  have hs := step_acquire t now b
  simp only [step, ha] at hs
  cases hs with
  | pass | probe => exact ⟨rfl, rfl⟩
  | tryOut _ _ state =>
    refine ⟨rfl, ?_⟩
    rw [hb.idle state]
    rfl

end Breaker

namespace Breakers

variable {r r' : Breakers} {key : Key} {t : Thresholds} {now : Instant} {notices : List Notice}

theorem acquire_others {answer : BreakerAdmission}
    (ha : r.acquire key t now = (answer, notices, r')) {other : Key} (hne : other ≠ key) :
    r'.entry? other = r.entry? other := by
  obtain ⟨entry, hr, -⟩ := after_of_reached (i := .acquire key t now) rfl
  rw [after, ha] at hr
  rw [entry?_eq_get?, hr]
  exact Registry.get?_insert_of_ne _ _ hne

theorem Lawful.entryFor_shape (hl : r.Lawful) (key : Key) (t : Thresholds) (now : Instant) :
    (r.entryFor key t now).1.breaker.Shape := by
  cases he : r.entry? key with
  | none =>
    rw [entryFor_eq_of_none he]
    exact Breaker.shape_fresh t now
  | some entry =>
    rw [entryFor_eq_of_some he]
    exact hl.shape he

theorem acquire_rejected (hl : r.Lawful) {state : Circuit} {denial : Denial}
    (ha : r.acquire key t now = (.rejected state denial, notices, r')) :
    ∃ entry change b', r.entry? key = some entry ∧ entry.breaker.state ≠ .closed ∧
      Breaker.Refusal t now entry.breaker change b' ∧
      r'.entry? key = some { entry with breaker := b' } ∧
      Notice.events notices = change.toList.map (.transition key) := by
  have hb := hl.entryFor_shape key t now
  have hev := acquire_events r key t now
  rw [ha] at hev
  rcases he : r.entryFor key t now with ⟨entry, r₁⟩
  rcases hq : entry.breaker.acquire t now with ⟨verdict, change, b'⟩
  rw [he] at hb hev
  simp only [hq] at hev
  simp only [acquire, he, hq] at ha
  cases verdict with
  | admitted => cases ha
  | rejected =>
    cases ha
    obtain ⟨hn, href⟩ := Breaker.acquire_rejected hb hq
    cases hr : r.entry? key with
    | none =>
      rw [entryFor_eq_of_none hr] at he
      cases he
      exact absurd rfl hn
    | some old =>
      rw [entryFor_eq_of_some hr] at he
      cases he
      exact ⟨_, change, b', rfl, hn, href, entry?_set_self _ _ _, hev⟩

theorem acquire_admitted (hl : r.Lawful) {permit : BreakerPermit}
    (ha : r.acquire key t now = (.admitted permit, notices, r')) :
    let entry := (r.entryFor key t now).1
    permit.key = key ∧ permit.serial = entry.serial ∧
    ∃ b', r'.entry? key = some { entry with breaker := b', holders := entry.holders + 1 } ∧
      permit.ticket.epoch = b'.epoch ∧
      b'.inFlight = entry.breaker.inFlight ++ [⟨permit.ticket.number, permit.probe, now⟩] := by
  have hb := hl.entryFor_shape key t now
  rcases he : r.entryFor key t now with ⟨entry, r₁⟩
  rcases hq : entry.breaker.acquire t now with ⟨verdict, change, b'⟩
  rw [he] at hb
  simp only [acquire, he, hq] at ha
  cases verdict with
  | rejected => cases ha
  | admitted ticket probe =>
    cases ha
    exact ⟨rfl, rfl, b', entry?_set_self _ _ _, Breaker.acquire_admitted hb hq⟩

def offers (r : Breakers) (key : Key) (policy : Policy) (now : Instant) : Bool :=
  policy.thresholds.all fun t =>
    match (r.acquire key t now).1 with
    | .admitted _ => true
    | .rejected .. => false

/-- The breaker of the key has refused, and has changed no more than a refusal may change. -/
def Denied (r : Breakers) (key : Key) (policy : Policy) (now : Instant)
    (change : Option Transition) (r' : Breakers) : Prop :=
  ∃ t entry b', policy.thresholds = some t ∧ r.entry? key = some entry ∧
    r'.entry? key = some { entry with breaker := b' } ∧
    b'.window.samples = entry.breaker.window.samples ∧
    b'.inFlight ⊆ entry.breaker.inFlight ∧
    Breaker.Refusal t now entry.breaker change b'

/-- A call has taken one slot of the breaker of its key, if the breaker is asked. -/
structure Seated (r : Breakers) (key : Key) (policy : Policy) (now : Instant)
    (taken : Option BreakerPermit) (r' : Breakers) : Prop where
  off : policy.thresholds = none → r' = r ∧ taken = none
  on : ∀ t, policy.thresholds = some t → ∃ permit b',
    let entry := (r.entryFor key t now).1
    taken = some permit ∧ permit.key = key ∧ permit.serial = entry.serial ∧
    r'.entry? key = some { entry with breaker := b', holders := entry.holders + 1 } ∧
    permit.ticket.epoch = b'.epoch ∧
    b'.inFlight = entry.breaker.inFlight ++ [⟨permit.ticket.number, permit.probe, now⟩]

end Breakers

end Turnstile
