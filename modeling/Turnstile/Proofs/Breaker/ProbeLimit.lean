import Turnstile.Proofs.Breaker.Cooldown
/-!
How many probes run at once. The probes that a half-open breaker waits for are those that its history
has let through since the last change of state and has not seen reported; their number decides on the
next one, whatever limit the thresholds have had before.
-/
namespace Turnstile.Breaker

variable {b b' : Breaker} {turn : Turn} {h : List Turn} {t : Thresholds} {now : Instant}
  {ticket : Ticket} {probe : Bool} {change : Option Transition}

/-- The tickets of the probes let through since the last change of state, or together with it, whose
outcomes have not been recorded; the newest comes first. -/
def probesOut (h : List Turn) : List Ticket :=
  (((lateTurns h.reverse).filter Turn.probe).filterMap Turn.ticket?).filter fun ticket =>
    !h.any (·.settles ticket)

theorem mem_probesOut : ticket ∈ probesOut h ↔ ∃ issuedAt, Outstanding h ticket true issuedAt := by
  simp only [probesOut, Outstanding, lately_iff_lateTurns, Turn.Admits, List.mem_filter,
    List.mem_filterMap, List.any_eq_true, Bool.not_eq_true', Bool.eq_false_iff, ne_eq]
  grind

theorem lateTurns_sublist (turns : List Turn) : (lateTurns turns).Sublist turns := by
  induction turns with
  | nil => exact List.Sublist.refl []
  | cons turn older ih =>
    rw [lateTurns]
    split
    · exact ih.cons_cons turn
    · exact (List.nil_sublist older).cons_cons turn

theorem nodup_probesOut (hn : (h.filterMap Turn.ticket?).Nodup) : (probesOut h).Nodup := by
  have hlate : ((lateTurns h.reverse).filter Turn.probe).Sublist h.reverse :=
    List.filter_sublist.trans (lateTurns_sublist h.reverse)
  have hall : (h.reverse.filterMap Turn.ticket?).Nodup := by
    rw [List.filterMap_reverse]
    exact List.nodup_reverse.2 hn
  exact (hall.sublist (hlate.filterMap Turn.ticket?)).filter _

theorem Ledger.probes_length (hl : Ledger h b) (hb : b.Shape)
    (hn : (h.filterMap Turn.ticket?).Nodup) : b.probes.length = (probesOut h).length := by
  have hnumbers : (b.probes.map (·.number)).Nodup := hb.nodup.sublist (List.filter_sublist.map _)
  have htickets : (b.probes.map fun f => Ticket.mk b.epoch f.number).Nodup := by
    refine List.Nodup.of_map Ticket.number ?_
    rw [List.map_map]
    exact hnumbers
  have hsame : (b.probes.map fun f => Ticket.mk b.epoch f.number).Perm (probesOut h) := by
    refine (List.perm_ext_iff_of_nodup htickets (nodup_probesOut hn)).2 fun ticket => ?_
    rw [mem_probesOut, List.mem_map]
    constructor
    · rintro ⟨f, hf, rfl⟩
      obtain ⟨hf, hp⟩ := List.mem_filter.1 hf
      have hout := (hl.inFlight f).1 hf
      rw [hp] at hout
      exact ⟨f.issuedAt, hout⟩
    · rintro ⟨issuedAt, ho⟩
      obtain ⟨epoch, number⟩ := ticket
      cases hl.current _ ho.pending.1
      exact ⟨⟨number, true, issuedAt⟩, List.mem_filter.2 ⟨(hl.inFlight _).2 ho, rfl⟩, rfl⟩
  rw [← hsame.length_eq, List.length_map]

theorem probes_length_run (t : Thresholds) (start : Instant) (is : List Input) :
    ((fresh t start).run is).probes.length = (probesOut ((fresh t start).history is)).length :=
  (ledger_run t start is).probes_length (shape_run t start is) (tickets_nodup t start is)

theorem acquire_timely (hb : b.Shape) (hh : b.state = .halfOpen)
    (ht : ¬ (b.asked t now).probeOverdue now) :
    ((∃ ticket, (b.acquire t now).1 = .admitted ticket true) ↔
      b.probes.length < t.probePermits) ∧
    (t.probePermits ≤ b.probes.length →
      b.acquire t now = (.rejected .halfOpen .probePermitExhausted, none, b.refused t now)) := by
  have hasked : b.asked t now = b.refused t now := hb.asked_eq_refused (by simp [hh]) t now
  rw [acquire_eq, hh]
  simp only [if_neg ht]
  split
  · next hroom => exact ⟨iff_of_true ⟨_, rfl⟩ hroom, fun hfull => absurd hroom (Nat.not_lt_of_le hfull)⟩
  · next hfull =>
    refine ⟨iff_of_false ?_ hfull, fun _ => by rw [hasked]⟩
    rintro ⟨ticket, ha⟩
    cases ha

theorem probes_issue (probe : Bool) (now : Instant) (b : Breaker) :
    (b.issue probe now).2.probes.length = b.probes.length + probe.toNat := by
  cases probe <;> simp [probes, issue, List.filter_append]

theorem Step.probes_of_admitted (hb : b.Shape)
    (hs : Step b (.acquired t now (.admitted ticket probe) change) b') :
    b'.probes.length ≤ max 1 t.probePermits := by
  cases hs with
  | pass _ _ state =>
    have hnone : (b.asked t now).probes = [] := by
      refine List.filter_eq_nil_iff.2 fun f hf hp => ?_
      have hh := (hb.probes f hf).1 hp
      rw [state] at hh
      cases hh
    rw [probes_issue, hnone]
    exact Nat.zero_le _
  | tryOut =>
    rw [probes_issue]
    exact Nat.le_max_left 1 t.probePermits
  | probe _ _ _ _ room =>
    rw [probes_issue]
    exact Nat.le_trans room (Nat.le_max_right 1 t.probePermits)

theorem Step.probes_of_none (hs : Step b turn b') (hn : turn.ticket? = none) :
    b'.probes.length ≤ b.probes.length := by
  cases hs with
  | pass | tryOut | probe => cases hn
  | refuse | exhaust | discard => exact Nat.le_refl _
  | expire | trip | fail | close => exact Nat.zero_le _
  | ignore | sample | succeed | waste => exact (List.filter_sublist.filter _).length_le

def Input.Permits (limit : Nat) : Input → Prop
  | .acquire t _ => t.probePermits ≤ limit
  | .record .. => True

instance (limit : Nat) : DecidablePred (Input.Permits limit)
  | .acquire t _ => inferInstanceAs (Decidable (t.probePermits ≤ limit))
  | .record .. => inferInstanceAs (Decidable True)

theorem Step.probes_le {limit : Nat} (hs : Step b turn b') (hb : b.Shape) (hone : 1 ≤ limit)
    (hlimit : turn.input.Permits limit) (hle : b.probes.length ≤ limit) :
    b'.probes.length ≤ limit := by
  match turn, hs, hlimit with
  | .acquired t now (.admitted ticket asProbe) change, hs, hlimit =>
    exact Nat.le_trans (hs.probes_of_admitted hb) (Nat.max_le.2 ⟨hone, hlimit⟩)
  | .acquired t now (.rejected state denial) change, hs, _ =>
    exact Nat.le_trans (hs.probes_of_none rfl) hle
  | .recorded .., hs, _ => exact Nat.le_trans (hs.probes_of_none rfl) hle

theorem probes_le_run (t : Thresholds) (start : Instant) (is : List Input) {limit : Nat}
    (hone : 1 ≤ limit) (hlimit : ∀ i ∈ is, i.Permits limit) :
    ((fresh t start).run is).probes.length ≤ limit :=
  (run_induction (P := fun _ b => b.probes.length ≤ limit) (Input.Permits limit) t start
    (Nat.zero_le limit) (fun _ hb hle hi hs => hs.probes_le hb hone hi hle) is hlimit).2

/-- Thresholds may change with every request. A half-open breaker that finds no probe overdue lets the
next call through, as a probe, if and only if fewer probes are out than the limit of the request, and
else refuses it and only adopts the thresholds. So at most as many are out after an admission, or one,
and never more than a limit that all requests keep to. -/
theorem probe_limit_law (t₀ : Thresholds) (start : Instant) (is : List Input) :
    let h := (fresh t₀ start).history is
    let b := (fresh t₀ start).run is
    (b.state = .halfOpen → ∀ t now,
      (¬ ∃ ticket issuedAt,
        Outstanding h ticket true issuedAt ∧ t.probeGrace ≤ now.since issuedAt) →
      ((∃ ticket, (b.acquire t now).1 = .admitted ticket true) ↔
        (probesOut h).length < t.probePermits) ∧
      (t.probePermits ≤ (probesOut h).length →
        b.acquire t now = (.rejected .halfOpen .probePermitExhausted, none, b.refused t now))) ∧
    (∀ t now ticket probe, (b.acquire t now).1 = .admitted ticket probe →
      (probesOut ((fresh t₀ start).history (is ++ [.acquire t now]))).length ≤
        max 1 t.probePermits) ∧
    ∀ limit, 1 ≤ limit → (∀ i ∈ is, i.Permits limit) → (probesOut h).length ≤ limit := by
  intro h b
  have hl : Ledger h b := ledger_run t₀ start is
  have hb : b.Shape := shape_run t₀ start is
  have hout : b.probes.length = (probesOut h).length := probes_length_run t₀ start is
  refine ⟨fun hh t now ht => ?_, fun t now ticket probe ha => ?_, fun limit hone hlimit => ?_⟩
  · rw [← hl.probeOverdue_iff t now] at ht
    rw [← hout]
    exact acquire_timely hb hh ht
  · rw [← probes_length_run, run_append]
    exact (step_of_verdict ha).probes_of_admitted hb
  · rw [← hout]
    exact probes_le_run t₀ start is hone hlimit

/-- Two probes are out when the limit falls to one. The next call waits though one of them is back. -/
theorem limit_falls_below_probes_out :
    let t := { Thresholds.standard with minimumCalls := 1, cooldownMs := 0, probePermits := 2 }
    let strict := { t with probePermits := 1 }
    let is := [Input.acquire t 0, .record ⟨0, 0⟩ .failure 1 0, .acquire t 5, .acquire t 5,
      .acquire strict 6, .record ⟨2, 1⟩ .ignored 1 7]
    let h := (fresh t 0).history is
    let b := (fresh t 0).run is
    b.state = .halfOpen ∧ (probesOut h).length = 1 ∧ (∀ i ∈ is, i.Permits 2) ∧
      (probesOut ((fresh t 0).history (is.take 4))).length = 2 ∧
      (¬ ∃ ticket issuedAt,
        Outstanding h ticket true issuedAt ∧ strict.probeGrace ≤ Instant.since 8 issuedAt) ∧
      b.acquire strict 8 = (.rejected .halfOpen .probePermitExhausted, none, b.refused strict 8) := by
  intro t strict is h b
  have hh : b.state = .halfOpen := by decide +kernel
  have hone : (probesOut h).length = 1 := by decide +kernel
  have ht : ¬ ∃ ticket issuedAt,
      Outstanding h ticket true issuedAt ∧ strict.probeGrace ≤ Instant.since 8 issuedAt := by
    rw [← (ledger_run t 0 is).probeOverdue_iff strict 8]
    decide +kernel
  have key := (probe_limit_law t 0 is).1 hh strict 8 ht
  exact ⟨hh, hone, by decide, by decide +kernel, ht, key.2 (Nat.le_of_eq hone.symm)⟩

end Turnstile.Breaker
