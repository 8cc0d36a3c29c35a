import Turnstile.Proofs.Breaker.Tickets
/-!
The cooldown. An open breaker refuses every request until the cooldown in force has passed since it
opened, and no report can change that; then the next request passes as a probe. A failed or overdue
probe starts a new cooldown.
-/
namespace Turnstile.Breaker

def refused (t : Thresholds) (now : Instant) (b : Breaker) : Breaker :=
  { b with
    lastAccess := now
    thresholds := t
    window := { b.window with size := max t.windowSize 1 } }

variable {b : Breaker} {h : List Turn}

theorem since_lt_iff {now past : Instant} {span : Span} (hp : past ≤ now) :
    now.since past < span ↔ now < past + span :=
  Nat.sub_lt_iff_lt_add' hp

/-- A breaker that is not closed has no samples, so that it adopts thresholds without losing any. -/
theorem Shape.asked_eq_refused (hb : b.Shape) (hn : b.state ≠ .closed) (t : Thresholds)
    (now : Instant) : b.asked t now = b.refused t now := by
  have hold := hb.window.eq_of_empty (hb.samples hn)
  have hnew := (hb.window.resize t.windowSize).eq_of_empty
    ((hb.asked t now).samples hn)
  rw [Window.resize_size] at hnew
  unfold Breaker.asked adopt refused
  rw [hnew, hold]

theorem Shape.asked_open (hb : b.Shape) (ho : b.state = .open) (t : Thresholds) (now : Instant) :
    b.asked t now = b.refused t now :=
  hb.asked_eq_refused (by simp [ho]) t now

theorem acquire_open (hb : b.Shape) (ho : b.state = .open) (t : Thresholds) (now : Instant) :
    (now.since b.transitionedAt < t.cooldown →
      b.acquire t now = (.rejected .open .open, none, b.refused t now)) ∧
    (t.cooldown ≤ now.since b.transitionedAt →
      ∃ next, b.acquire t now =
        (.admitted ⟨b.epoch + 1, b.nextNumber⟩ true, some ⟨.open, .halfOpen⟩, next) ∧
        next.state = .halfOpen) := by
  rw [acquire_eq, ho]
  constructor
  · intro hc
    simp only [if_neg (Nat.not_le_of_lt hc), hb.asked_open ho]
  · intro hc
    exact ⟨_, if_pos hc, rfl⟩

theorem record_open (hb : b.Shape) (ho : b.state = .open) (ticket : Ticket) (outcome : Outcome)
    (elapsed : Span) (now : Instant) :
    b.record ticket outcome elapsed now = (.discarded, none, { b with lastAccess := now }) := by
  have hn : b.outstanding? ticket = none := by
    rw [Option.eq_none_iff_forall_ne_some]
    intro call hk
    exact hb.not_waste hk (.inl ho)
  rw [record_eq, hn]

theorem Lately.instant_mem {c : Transition} {since : Instant} {is : List Input}
    (hl : Lately (Turn.Changes c since) (b.history is)) : ∃ i ∈ is, i.instant = since := by
  obtain ⟨before, turn, after, he, hc, -⟩ := hl
  refine ⟨turn.input, ?_, hc.2⟩
  rw [← history_input b is, he]
  exact List.mem_map_of_mem (by simp)

theorem lately_last {P : Turn → Prop} (b : Breaker) (is : List Input) (i : Input)
    (hp : P ((b.run is).step i).1) : Lately P (b.history (is ++ [i])) := by
  rw [history_append]
  exact lately_snoc.2 (.inl hp)

theorem fail_reopens (hl : Ledger h b) (hb : b.Shape) (hh : b.state = .halfOpen) {ticket : Ticket}
    (hp : Pending h ticket) (elapsed : Span) (now : Instant) :
    (b.record ticket .failure elapsed now).2.1 = some ⟨.halfOpen, .open⟩ := by
  obtain ⟨call, hk⟩ := Option.isSome_iff_exists.1 ((hl.isSome_outstanding? hb ticket).2 hp)
  obtain ⟨-, hm⟩ := hb.outstanding?_eq_some.1 hk
  have hstate : (b.settled ticket now).state = .halfOpen := hh
  have hprobe : call.probe = true := (hb.probes call hm).2 hh
  rw [record_eq, hk]
  simp only [count_eq, hstate, if_pos hprobe]

theorem overdue_reopens (hl : Ledger h b) (hh : b.state = .halfOpen) {t : Thresholds}
    {now : Instant} (ho : ∃ ticket issuedAt,
      Outstanding h ticket true issuedAt ∧ t.probeGrace ≤ now.since issuedAt) :
    (b.acquire t now).2.1 = some ⟨.halfOpen, .open⟩ := by
  have hlate := (hl.probeOverdue_iff t now).2 ho
  rw [acquire_eq, hh]
  simp only [if_pos hlate]

/-- If the last change of state was into open at `opened`, a request is refused, at instants that
never go back, if and only if its cooldown has not passed since then, and otherwise it passes as a
probe; no report counts. A failed probe, or one found overdue, makes such a change. -/
theorem open_law (t₀ : Thresholds) (start : Instant) (is : List Input) :
    let h := (fresh t₀ start).history is
    let b := (fresh t₀ start).run is
    (∀ source opened, Lately (Turn.Changes ⟨source, .open⟩ opened) h →
      b.state = .open ∧
      (∀ t now, (∀ i ∈ is, i.instant ≤ now) →
        (b.acquire t now = (.rejected .open .open, none, b.refused t now) ↔
          now < opened + t.cooldown) ∧
        (opened + t.cooldown ≤ now → ∃ ticket next,
          b.acquire t now = (.admitted ticket true, some ⟨.open, .halfOpen⟩, next) ∧
            next.state = .halfOpen)) ∧
      ∀ ticket outcome elapsed now,
        b.record ticket outcome elapsed now = (.discarded, none, { b with lastAccess := now })) ∧
    (b.state = .halfOpen →
      (∀ ticket elapsed now, Pending h ticket →
        Lately (Turn.Changes ⟨.halfOpen, .open⟩ now)
          ((fresh t₀ start).history (is ++ [.record ticket .failure elapsed now]))) ∧
      ∀ t now,
        (∃ ticket issuedAt,
          Outstanding h ticket true issuedAt ∧ t.probeGrace ≤ now.since issuedAt) →
        Lately (Turn.Changes ⟨.halfOpen, .open⟩ now)
          ((fresh t₀ start).history (is ++ [.acquire t now]))) := by
  intro h b
  have hl : Ledger h b := ledger_run t₀ start is
  have hb : b.Shape := shape_run t₀ start is
  refine ⟨fun source opened hc => ?_, fun hh => ⟨fun ticket elapsed now hp => ?_,
    fun t now ho => ?_⟩⟩
  · obtain ⟨hstate, hsince⟩ : b.state = .open ∧ b.transitionedAt = opened :=
      state_of_lately (fresh t₀ start) is hc
    refine ⟨hstate, fun t now hmono => ?_, record_open hb hstate⟩
    obtain ⟨i, hi, hio⟩ := hc.instant_mem
    have hle : opened ≤ now := hio ▸ hmono i hi
    obtain ⟨hearly, hlate⟩ := acquire_open hb hstate t now
    rw [hsince, since_lt_iff hle] at hearly
    rw [hsince, ← Nat.not_lt, since_lt_iff hle, Nat.not_lt] at hlate
    refine ⟨⟨fun hr => ?_, hearly⟩, fun hge => ?_⟩
    · by_contra hge
      obtain ⟨next, ha, -⟩ := hlate (Nat.le_of_not_lt hge)
      rw [ha] at hr
      cases hr
    · obtain ⟨next, ha⟩ := hlate hge
      exact ⟨_, next, ha⟩
  · exact lately_last _ is _ ⟨fail_reopens hl hb hh hp elapsed now, rfl⟩
  · exact lately_last _ is _ ⟨overdue_reopens hl hh ho, rfl⟩

/-- A trip at 5, a late success at 7, and a cooldown of a millisecond from the trip on. -/
theorem open_law_after_trip :
    let t := { Thresholds.standard with minimumCalls := 1, cooldownMs := 1 }
    let is := [Input.acquire t 0, .acquire t 1, .record ⟨0, 0⟩ .failure 1 5,
      .record ⟨0, 1⟩ .success 1 7]
    let b := (fresh t 0).run is
    Lately (Turn.Changes ⟨.closed, .open⟩ 5) ((fresh t 0).history is) ∧
      (∀ i ∈ is, i.instant ≤ 1000004) ∧
      b.acquire t 1000004 = (.rejected .open .open, none, b.refused t 1000004) := by
  intro t is b
  have hl : Lately (Turn.Changes ⟨.closed, .open⟩ 5) ((fresh t 0).history is) :=
    ⟨((fresh t 0).history is).take 2, .recorded ⟨0, 0⟩ .failure 1 5 .applied (some ⟨.closed, .open⟩),
      ((fresh t 0).history is).drop 3, by decide +kernel, ⟨rfl, rfl⟩, by decide +kernel⟩
  have hi : ∀ i ∈ is, i.instant ≤ 1000004 := by decide
  have key := ((open_law t 0 is).1 .closed 5 hl).2.1 t 1000004 hi
  exact ⟨hl, hi, key.1.2 (by decide)⟩

end Turnstile.Breaker
