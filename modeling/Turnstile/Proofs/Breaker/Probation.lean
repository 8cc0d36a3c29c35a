import Turnstile.Proofs.Breaker.Trip
import Turnstile.Proofs.Breaker.Renumbering
/-!
How a half-open breaker decides. The first failed or overdue probe opens it again, and enough
successful ones close it; a breaker that has closed is as good as new.
-/
namespace Turnstile.Breaker

def Turn.succeeds : Turn → Bool
  | .recorded _ .success _ _ .applied _ => true
  | _ => false

def successes (h : List Turn) : Nat := (h.rtakeWhile (·.change.isNone)).countP Turn.succeeds

def OnProbation (h : List Turn) : Prop :=
  Lately (fun turn => turn.change = some ⟨.open, .halfOpen⟩) h

theorem successes_snoc (h : List Turn) (turn : Turn) :
    successes (h ++ [turn]) =
      if turn.change.isNone then successes h + turn.succeeds.toNat else 0 := by
  unfold successes
  rw [List.rtakeWhile_concat]
  split
  · cases hs : turn.succeeds <;> simp [List.countP_append, hs]
  · rfl

variable {b b' : Breaker} {turn : Turn} {h : List Turn} {t : Thresholds}

theorem OnProbation.halfOpen {is : List Input} (hp : OnProbation (b.history is)) :
    (b.run is).state = .halfOpen := by
  obtain ⟨before, turn, after, he, hc, ha⟩ := hp
  exact (state_of_lately b is ⟨before, turn, after, he, ⟨hc, rfl⟩, ha⟩).1

theorem Step.probeSuccesses (hs : Step b turn b') (hb : b.Shape) (ht : b.thresholds = t)
    (hh : b.state = .halfOpen) (hq : turn.change = none)
    (hfew : b.probeSuccesses < max 1 t.successThreshold) :
    b'.probeSuccesses = b.probeSuccesses + turn.succeeds.toNat ∧
      b'.probeSuccesses < max 1 t.successThreshold := by
  cases hs with
  | pass _ _ state | refuse _ _ state | sample _ _ _ _ _ _ _ state =>
    rw [hh] at state
    cases state
  | tryOut | expire | trip | fail | close => cases hq
  | probe | exhaust | ignore => exact ⟨rfl, hfew⟩
  | discard ticket outcome => cases outcome <;> exact ⟨rfl, hfew⟩
  | succeed ticket elapsed now call known state probe few =>
    exact ⟨rfl, Nat.lt_of_lt_of_le (ht ▸ few) (Nat.le_max_right 1 t.successThreshold)⟩
  | waste _ _ _ _ _ known _ useless => exact absurd useless (hb.not_waste known)

/-- What a history says of the successes of a half-open breaker: they are those since the last change
of state, and too few to close it. -/
structure Tally (t : Thresholds) (h : List Turn) (b : Breaker) : Prop where
  counted : b.state = .halfOpen → b.probeSuccesses = successes h
  few : b.state = .halfOpen → b.probeSuccesses < max 1 t.successThreshold

theorem tally_fresh (t : Thresholds) (start : Instant) : Tally t [] (fresh t start) where
  counted _ := rfl
  few _ := Nat.lt_of_lt_of_le Nat.one_pos (Nat.le_max_left 1 t.successThreshold)

theorem Tally.step (hy : Tally t h b) (hb : b.Shape) (ht : b.thresholds = t)
    (hs : Step b turn b') : Tally t (h ++ [turn]) b' := by
  have key : b'.state = .halfOpen → b'.probeSuccesses = successes (h ++ [turn]) ∧
      b'.probeSuccesses < max 1 t.successThreshold := by
    intro hh
    rw [successes_snoc]
    cases hq : turn.change with
    | none =>
      have hstate : b.state = .halfOpen := (hs.quiet hq).1 ▸ hh
      rw [if_pos Option.isNone_none, ← hy.counted hstate]
      exact hs.probeSuccesses hb ht hstate hq (hy.few hstate)
    | some c =>
      -- The probation has just begun, so nothing has been counted yet.
      rw [if_neg (by simp), (hs.cleared hq).2]
      exact ⟨rfl, Nat.lt_of_lt_of_le Nat.one_pos (Nat.le_max_left 1 t.successThreshold)⟩
  exact ⟨fun hh => (key hh).1, fun hh => (key hh).2⟩

theorem tally_run (start : Instant) (is : List Input) (hu : ∀ i ∈ is, i.Under t) :
    let h := (fresh t start).history is
    let b := (fresh t start).run is
    b.thresholds = t ∧ Tally t h b :=
  steady_induction start (tally_fresh t start) (fun hb ht hy _ hs => hy.step hb ht hs) is hu

theorem Shape.probes_eq (hb : b.Shape) (hh : b.state = .halfOpen) : b.probes = b.inFlight :=
  List.filter_eq_self.2 fun f hf => (hb.probes f hf).2 hh

theorem Shape.probes_settled (hb : b.Shape) (hh : b.state = .halfOpen) {ticket : Ticket}
    {call : InFlight} (known : b.outstanding? ticket = some call) (now : Instant) :
    (b.settled ticket now).probes.length + 1 = b.probes.length := by
  obtain ⟨rfl, hm⟩ := hb.outstanding?_eq_some.1 known
  rw [(hb.settled _ now).probes_eq hh, hb.probes_eq hh, (hb.inFlight_perm hm).length_eq]
  rfl

theorem record_halfOpen (hb : b.Shape) (ht : b.thresholds = t) (hh : b.state = .halfOpen)
    (hfew : b.probeSuccesses < max 1 t.successThreshold) (ticket : Ticket) (outcome : Outcome)
    (elapsed : Span) (now : Instant) :
    let r := b.record ticket outcome elapsed now
    (r.2.1 = some ⟨.halfOpen, .open⟩ ↔ r.1 = .applied ∧ outcome = .failure) ∧
      (r.2.1 = some ⟨.halfOpen, .closed⟩ ↔ r.1 = .applied ∧ outcome = .success ∧
        b.probeSuccesses + 1 = max 1 t.successThreshold) ∧
      (r.2.1 = none ∨ r.2.1 = some ⟨.halfOpen, .open⟩ ∨ r.2.1 = some ⟨.halfOpen, .closed⟩) ∧
      r.2.2.state = (r.2.1.map (·.target)).getD .halfOpen := by
  have hs := step_record ticket outcome elapsed now b
  simp only [step] at hs
  generalize b.record ticket outcome elapsed now = r at hs ⊢
  obtain ⟨answer, change, next⟩ := r
  dsimp only at hs ⊢
  subst ht
  cases hs with
  | discard | ignore => simp [hh, settled]
  | sample _ _ _ _ _ _ _ state | trip _ _ _ _ _ _ _ state =>
    rw [hh] at state
    cases state
  | fail => simp [moveTo]
  | succeed _ _ _ _ _ _ probe few =>
    have hne : b.probeSuccesses + 1 ≠ max 1 b.thresholds.successThreshold := by omega
    simp [hne, hh, settled, succeeded]
  | close _ _ _ _ _ _ probe enough =>
    have heq : b.probeSuccesses + 1 = max 1 b.thresholds.successThreshold := by omega
    simp [heq, moveTo]
  | waste _ _ _ _ call known counted useless => exact absurd useless (hb.not_waste known)

theorem record_ignored (hb : b.Shape) (hh : b.state = .halfOpen) {ticket : Ticket} {elapsed : Span}
    {now : Instant} (ha : (b.record ticket .ignored elapsed now).1 = .applied) :
    let next := (b.record ticket .ignored elapsed now).2.2
    next.state = .halfOpen ∧ next.probeSuccesses = b.probeSuccesses ∧
      next.probes.length + 1 = b.probes.length := by
  rw [record_eq] at ha ⊢
  cases hk : b.outstanding? ticket with
  | none =>
    rw [hk] at ha
    cases ha
  | some call =>
    simp only [count_eq]
    exact ⟨hh, rfl, hb.probes_settled hh hk now⟩

theorem acquire_halfOpen (hl : Ledger h b) (hh : b.state = .halfOpen) (t : Thresholds)
    (now : Instant) :
    let r := b.acquire t now
    (r.2.1.isSome ↔ ∃ ticket issuedAt,
      Outstanding h ticket true issuedAt ∧ t.probeGrace ≤ now.since issuedAt) ∧
    (r.2.1.isSome → r.1 = .rejected .open .open ∧ r.2.1 = some ⟨.halfOpen, .open⟩ ∧
      r.2.2.state = .open) := by
  rw [← hl.probeOverdue_iff t now, acquire_eq, hh]
  by_cases ho : (b.asked t now).probeOverdue now
  · simp [ho, moveTo]
  · simp only [if_neg ho]
    split <;> simp [ho]

theorem Step.renewed (hs : Step b turn b') (hb : b.Shape) (ht : b.thresholds = t)
    (hc : turn.change = some ⟨.halfOpen, .closed⟩) :
    b' = (fresh t turn.instant).raise b'.epoch b'.nextNumber := by
  subst ht
  cases hs with
  | close ticket elapsed now =>
    simp [moveTo, settled, succeeded, fresh, raise, Window.clear, Window.ofSize, hb.capacity]
  | _ => cases hc

theorem renewed_run (start : Instant) (is : List Input) (hu : ∀ i ∈ is, i.Under t) {turn : Turn}
    (hlast : turn ∈ ((fresh t start).history is).getLast?)
    (hc : turn.change = some ⟨.halfOpen, .closed⟩) :
    let b := (fresh t start).run is
    b = (fresh t turn.instant).raise b.epoch b.nextNumber := by
  induction is using List.reverseRecOn with
  | nil => cases hlast
  | append_singleton is i _ =>
    have hu' : ∀ j ∈ is, j.Under t := fun j hj => hu j (List.mem_append_left [i] hj)
    rw [history_append, history, history, List.getLast?_concat, Option.mem_some_iff] at hlast
    subst hlast
    rw [run_append]
    exact (step_spec _ i).renewed (shape_run t start is) (tally_run start is hu').1 hc

/-- Under one set of thresholds, a report to a half-open breaker opens it if and only if it is
applied and a failure, and closes it if and only if it is the last success that was asked for; an
ignored one only frees its slot. A request opens it, and is refused, if and only if some probe is
overdue. Once closed again, the breaker answers to all that comes as a new one would, up to the
numbers of epochs and tickets. -/
theorem half_open_law (t : Thresholds) (start : Instant) (is : List Input)
    (hu : ∀ i ∈ is, i.Under t) :
    let h := (fresh t start).history is
    let b := (fresh t start).run is
    (OnProbation h →
      b.probeSuccesses = successes h ∧
      (∀ ticket outcome elapsed now,
        let r := b.record ticket outcome elapsed now
        (r.2.1 = some ⟨.halfOpen, .open⟩ ↔ r.1 = .applied ∧ outcome = .failure) ∧
        (r.2.1 = some ⟨.halfOpen, .closed⟩ ↔
          r.1 = .applied ∧ outcome = .success ∧ successes h + 1 = max 1 t.successThreshold) ∧
        (r.2.1 = none ∨ r.2.1 = some ⟨.halfOpen, .open⟩ ∨ r.2.1 = some ⟨.halfOpen, .closed⟩) ∧
        r.2.2.state = (r.2.1.map (·.target)).getD .halfOpen) ∧
      (∀ ticket elapsed now,
        let r := b.record ticket .ignored elapsed now
        r.1 = .applied → r.2.2.state = .halfOpen ∧ r.2.2.probeSuccesses = b.probeSuccesses ∧
          r.2.2.probes.length + 1 = b.probes.length) ∧
      ∀ now,
        let r := b.acquire t now
        (r.2.1.isSome ↔ ∃ ticket issuedAt,
          Outstanding h ticket true issuedAt ∧ t.probeGrace ≤ now.since issuedAt) ∧
        (r.2.1.isSome → r.1 = .rejected .open .open ∧ r.2.1 = some ⟨.halfOpen, .open⟩ ∧
          r.2.2.state = .open)) ∧
    ∀ turn ∈ h.getLast?, turn.change = some ⟨.halfOpen, .closed⟩ →
      ∀ later : List Input, (∀ i ∈ later, i.Within (b.history later)) →
        ∃ js : List Input, js.map (·.mapTicket (·.raise b.epoch b.nextNumber)) = later ∧
          b.history later = ((fresh t turn.instant).history js).map
            (·.mapTicket (·.raise b.epoch b.nextNumber)) := by
  intro h b
  have hl : Ledger h b := ledger_run t start is
  have hb : b.Shape := shape_run t start is
  obtain ⟨ht, hy⟩ : b.thresholds = t ∧ Tally t h b := tally_run start is hu
  refine ⟨fun hp => ?_, fun turn hlast hc later hw => ?_⟩
  · have hh : b.state = .halfOpen := hp.halfOpen
    refine ⟨hy.counted hh, fun ticket outcome elapsed now => ?_, fun ticket elapsed now => ?_,
      fun now => ?_⟩
    · rw [← hy.counted hh]
      exact record_halfOpen hb ht hh (hy.few hh) ticket outcome elapsed now
    · exact record_ignored hb hh
    · exact acquire_halfOpen hl hh t now
  · have hnew : b = (fresh t turn.instant).raise b.epoch b.nextNumber :=
      renewed_run start is hu hlast hc
    have hw' : ∀ i ∈ later, i.Within
        (((fresh t turn.instant).raise b.epoch b.nextNumber).history later) := hnew ▸ hw
    obtain ⟨js, hjs, he⟩ := history_of_raise b.epoch b.nextNumber rfl rfl later hw'
    rw [← hnew] at he
    exact ⟨js, hjs, he⟩

/-- The second success closes the circuit, and the next failure opens it as it would a new one. -/
theorem as_new_after_two_successes :
    let t := { Thresholds.standard with minimumCalls := 1, cooldownMs := 0, successThreshold := 2 }
    let trial := [Input.acquire t 0, .acquire t 0, .record ⟨0, 0⟩ .failure 1 0, .acquire t 5,
      .acquire t 5, .record ⟨2, 2⟩ .success 1 6]
    let is := trial ++ [.record ⟨2, 3⟩ .success 1 7]
    let later := [Input.acquire t 8, .record ⟨3, 4⟩ .failure 1 9]
    let b := (fresh t 0).run is
    (∀ i ∈ is, i.Under t) ∧ OnProbation ((fresh t 0).history trial) ∧
      (((fresh t 0).run trial).record ⟨2, 3⟩ .success 1 7).2.1 = some ⟨.halfOpen, .closed⟩ ∧
      (∀ i ∈ later, i.Within (b.history later)) ∧
      ∃ js : List Input, js.map (·.mapTicket (·.raise 3 4)) = later ∧
        b.history later = ((fresh t 7).history js).map (·.mapTicket (·.raise 3 4)) := by
  intro t trial is later b
  have hu : ∀ i ∈ is, i.Under t := by decide
  have hp : OnProbation ((fresh t 0).history trial) :=
    ⟨((fresh t 0).history trial).take 3,
      .acquired t 5 (.admitted ⟨2, 2⟩ true) (some ⟨.open, .halfOpen⟩),
      ((fresh t 0).history trial).drop 4, by decide +kernel, rfl, by decide +kernel⟩
  have hlast : ((fresh t 0).history is).getLast? =
      some (.recorded ⟨2, 3⟩ .success 1 7 .applied (some ⟨.halfOpen, .closed⟩)) := by
    decide +kernel
  have hw : ∀ i ∈ later, i.Within (b.history later) := by decide +kernel
  have he : ((fresh t 0).run is).epoch = 3 := by decide +kernel
  have hn : ((fresh t 0).run is).nextNumber = 4 := by decide +kernel
  have hclose := (half_open_law t 0 trial fun i hi => hu i (List.mem_append_left _ hi)).1 hp
  have hnew := (half_open_law t 0 is hu).2 _ hlast rfl later hw
  rw [he, hn] at hnew
  refine ⟨hu, hp, ?_, hw, hnew⟩
  exact (hclose.2.1 ⟨2, 3⟩ .success 1 7).2.1.2 ⟨by decide +kernel, rfl, by decide +kernel⟩

end Turnstile.Breaker
