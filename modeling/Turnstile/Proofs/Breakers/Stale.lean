import Turnstile.Proofs.Breakers.Run
import Turnstile.Session.Breakers
/-!
Reports by ticket. A report reaches the breaker that its key has now, and a breaker that is made anew
starts to number again: a ticket of an evicted one, or of another key, can look like one that is out.
-/
namespace Turnstile
namespace BreakerSession

def inputs (s : BreakerSession) : BreakerAction → List Breakers.Input
  | .acquire name key t =>
    .acquire key t s.now ::
      match (s.breakers.acquire key t s.now).1 with
      | .admitted _ => (s.permits.get? name).toList.map (.drop · s.now)
      | .rejected .. => []
  | .complete name outcome elapsed =>
    (s.permits.get? name).toList.map (.complete · outcome elapsed s.now)
  | .drop name => (s.permits.get? name).toList.map (.drop · s.now)
  | .record name key outcome elapsed =>
    (s.tickets.get? name).toList.map fun (own, ticket) =>
      .record (key.getD own) ticket outcome elapsed s.now
  | .advance _ => []
  | .sweep retention => [.sweep s.now retention]
  | .look _ => []

def allInputs (s : BreakerSession) : List BreakerAction → List Breakers.Input
  | [] => []
  | a :: as => s.inputs a ++ allInputs (s.step a).2 as

def history (s : BreakerSession) (as : List BreakerAction) : List Breakers.Turn :=
  s.breakers.history (s.allInputs as)

theorem step_breakers (s : BreakerSession) (a : BreakerAction) :
    (s.step a).2.breakers = s.breakers.run (s.inputs a) := by
  cases a with
  | acquire name key t =>
    simp only [step, acquire, inputs, Breakers.run, Breakers.after]
    cases (s.breakers.acquire key t s.now).1 with
    | rejected => rfl
    | admitted p => cases hp : s.permits.get? name <;> simp [keep, report, hp, Breakers.run,
        Breakers.after]
  | complete name | drop name | record name =>
    simp only [step, inputs]
    split <;> simp [*, report, Breakers.run, Breakers.after]
  | advance | look | sweep => rfl

theorem run_breakers (s : BreakerSession) (as : List BreakerAction) :
    (s.run as).breakers = s.breakers.run (s.allInputs as) := by
  induction as generalizing s with
  | nil => rfl
  | cons a as ih =>
    rw [allInputs, Breakers.run_append, ← step_breakers]
    exact ih (s.step a).2

theorem chronicle (as : List BreakerAction) :
    Breakers.Chronicle (start.history as) (start.run as).breakers := by
  rw [run_breakers]
  exact Breakers.chronicle_run _

end BreakerSession

namespace Breakers

variable {r : Breakers} {h : List Turn}

theorem recordOutcome_eq (r : Breakers) (key : Key) (ticket : Ticket) (outcome : Outcome)
    (elapsed : Span) (now : Instant) :
    let answer := r.recordOutcome key ticket outcome elapsed now
    match r.entry? key with
    | none => answer.1 = .discarded ∧ answer.2.2 = r
    | some entry =>
      answer.1 = (entry.breaker.record ticket outcome elapsed now).1 ∧
        answer.2.2 = r.set key
          { entry with breaker := (entry.breaker.record ticket outcome elapsed now).2.2 } := by
  dsimp only
  rw [recordOutcome]
  cases r.entry? key <;> exact ⟨rfl, rfl⟩

theorem breaker?_set (r : Breakers) (key other : Key) (entry : BreakerEntry) :
    (r.set key entry).breaker? other =
      if other = key then some entry.breaker else r.breaker? other := by
  unfold breaker?
  split
  · next he => rw [he, entry?_set_self, Option.map_some]
  · next hne => rw [entry?_set_of_ne r entry hne]

theorem Chronicle.recordOutcome_applied_iff (hc : Chronicle h r) (key : Key) (ticket : Ticket)
    (outcome : Outcome) (elapsed : Span) (now : Instant) :
    (r.recordOutcome key ticket outcome elapsed now).1 = .applied ↔
      Breaker.Pending (life key h) ticket := by
  have heq := recordOutcome_eq r key ticket outcome elapsed now
  cases he : r.entry? key with
  | none =>
    rw [he] at heq
    rw [heq.1, hc.absent key he]
    exact iff_of_false (fun hn => nomatch hn) fun hp => Breaker.lately_nil _ hp.1
  | some entry =>
    rw [he] at heq
    obtain ⟨hl, hb⟩ := hc.ledger he
    rw [heq.1]
    exact Breaker.record_applied_iff hl hb ticket outcome elapsed now

theorem Chronicle.recordOutcome_discarded (hc : Chronicle h r) {key : Key} {ticket : Ticket}
    (hn : ¬ Breaker.Pending (life key h) ticket) (outcome : Outcome) (elapsed : Span)
    (now : Instant) (other : Key) :
    (r.recordOutcome key ticket outcome elapsed now).2.2.breaker? other =
      (r.breaker? other).map fun b => if other = key then { b with lastAccess := now } else b := by
  have heq := recordOutcome_eq r key ticket outcome elapsed now
  cases he : r.entry? key with
  | none =>
    rw [he] at heq
    rw [heq.2]
    by_cases hk : other = key
    · rw [hk, breaker?, he]
      rfl
    · simp [hk]
  | some entry =>
    rw [he] at heq
    obtain ⟨hl, hb⟩ := hc.ledger he
    rw [heq.2, breaker?_set, Breaker.record_discarded hl hb hn]
    by_cases hk : other = key
    · simp [hk, breaker?, he]
    · simp [hk]

/-- A report by key and ticket counts if and only if the breaker that the key has now has handed out
such a ticket, with no change of state since, and has had no report with it; any other report changes
nothing but the last access of that breaker. Which breaker the ticket was got from is not looked at. -/
theorem report_by_ticket (as : List BreakerAction) :
    let s := BreakerSession.start.run as
    let h := BreakerSession.start.history as
    ∀ key ticket outcome elapsed,
      let answer := s.breakers.recordOutcome key ticket outcome elapsed s.now
      (answer.1 = .applied ↔ Breaker.Pending (life key h) ticket) ∧
      (answer.1 = .discarded → ∀ other, answer.2.2.breaker? other =
        (s.breakers.breaker? other).map fun b =>
          if other = key then { b with lastAccess := s.now } else b) := by
  intro s h key ticket outcome elapsed answer
  have hc : Chronicle h s.breakers := BreakerSession.chronicle as
  have ha : answer.1 = .applied ↔ Breaker.Pending (life key h) ticket :=
    hc.recordOutcome_applied_iff key ticket outcome elapsed s.now
  refine ⟨ha, fun hd other => ?_⟩
  have hn : ¬ Breaker.Pending (life key h) ticket := by
    rw [← ha, hd]
    exact fun he => nomatch he
  exact hc.recordOutcome_discarded hn outcome elapsed s.now other

/-- The ticket of a call that was completed before its key was evicted takes the slot of a later call,
whose own outcome is discarded then; so does a ticket of another key. -/
theorem evicted_ticket_takes_slot :
    let t := Thresholds.standard
    let before : List BreakerAction :=
      [.acquire "a" ⟨"k"⟩ t, .complete "a" .success 0, .advance (.ofSecs 7200), .sweep .standard,
        .acquire "b" ⟨"k"⟩ t]
    let s := BreakerSession.start.run before
    let report := s.step (.record "a" none .failure 0)
    let foreign := (s.step (.acquire "c" ⟨"other"⟩ t)).2.step (.record "a" (some ⟨"other"⟩) .failure 0)
    (BreakerSession.start.run (before.take 4)).breakers.breaker? ⟨"k"⟩ = none ∧
      (s.breakers.breaker? ⟨"k"⟩).map (fun b => (b.window.length, b.inFlight.length)) = some (0, 1) ∧
      report.1.reply = .recorded .applied ∧
      (report.2.breakers.breaker? ⟨"k"⟩).map (fun b => (b.window.failures, b.inFlight.length)) =
        some (1, 0) ∧
      (report.2.step (.complete "b" .success 0)).1.reply = .recorded .discarded ∧
      foreign.1.reply = .recorded .applied := by
  decide +kernel

end Breakers
end Turnstile
