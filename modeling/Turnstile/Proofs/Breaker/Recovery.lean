import Turnstile.Proofs.Breaker.Cooldown
/-!
Recovery. All instants that a breaker goes by have been given to it, so that grace and cooldown run
out however many probes are lost: a late request passes, or it finds a lost probe and opens the
breaker again, and then nothing but the cooldown stands in the way of the next one.
-/
namespace Turnstile.Breaker

/-- No instant that the breaker goes by lies after `last`. -/
structure Dated (last : Instant) (b : Breaker) : Prop where
  transitionedAt : b.transitionedAt ≤ last
  issuedAt : ∀ f ∈ b.inFlight, f.issuedAt ≤ last

variable {b b' : Breaker} {turn : Turn} {last now : Instant} {t : Thresholds}

theorem le_since {past : Instant} {span : Span} (hp : past + span ≤ now) :
    span ≤ now.since past :=
  Nat.le_sub_of_add_le' hp

theorem dated_fresh (t : Thresholds) {start : Instant} (hs : start ≤ last) :
    (fresh t start).Dated last where
  transitionedAt := hs
  issuedAt := by simp [fresh]

theorem Dated.step (hd : b.Dated last) (hs : Step b turn b') (ht : turn.instant ≤ last) :
    b'.Dated last where
  transitionedAt := by
    cases hc : turn.change with
    | none =>
      rw [(hs.quiet hc).2.2]
      exact hd.transitionedAt
    | some c =>
      obtain ⟨-, -, -, hsince⟩ := hs.moved hc
      rw [hsince]
      exact ht
  issuedAt := by
    intro f hf
    obtain ⟨-, -, hissued⟩ | ⟨-, hold, -⟩ := (hs.mem_inFlight f).1 hf
    · rw [← hissued]
      exact ht
    · exact hd.issuedAt f hold

theorem dated_run (t : Thresholds) {start : Instant} (hs : start ≤ last) (is : List Input)
    (his : ∀ i ∈ is, i.instant ≤ last) : ((fresh t start).run is).Dated last := by
  apply history_induction (P := fun _ b => b.Dated last) (·.instant ≤ last) (fresh t start)
    (dated_fresh t hs) _ is his
  intro h b turn b' hd hi hstep
  exact hd.step hstep hi

theorem Dated.overdue (hd : b.Dated last) {f : InFlight} (hf : f ∈ b.probes)
    (hnow : last + t.probeGrace ≤ now) : (b.asked t now).probeOverdue now = true := by
  have hissued : f.issuedAt ≤ last := hd.issuedAt f (List.mem_of_mem_filter hf)
  have hlate : t.probeGrace ≤ now.since f.issuedAt :=
    le_since (Nat.le_trans (Nat.add_le_add_right hissued t.probeGrace) hnow)
  exact List.any_eq_true.2 ⟨f, hf, decide_eq_true hlate⟩

theorem acquire_vacant (hh : b.state = .halfOpen) (hv : b.probes = []) (hp : 1 ≤ t.probePermits)
    (now : Instant) : (b.acquire t now).1 = .admitted b.nextTicket true := by
  have htimely : ¬ (b.asked t now).probeOverdue now := by
    have hnone : (b.asked t now).probes = [] := hv
    simp [probeOverdue, hnone]
  rw [acquire_eq, hh]
  simp only [if_neg htimely, hv, List.length_nil, if_pos (Nat.lt_of_succ_le hp)]

/-- A request after grace and cooldown passes, or it finds an overdue probe and opens the breaker. -/
theorem Dated.acquire (hd : b.Dated last) (hp : 1 ≤ t.probePermits)
    (hnow : last + max t.probeGrace t.cooldown ≤ now) :
    (∃ ticket probe, (b.acquire t now).1 = .admitted ticket probe) ∨
      b.acquire t now =
        (.rejected .open .open, some ⟨.halfOpen, .open⟩, (b.asked t now).moveTo .open now) := by
  have hgrace : last + t.probeGrace ≤ now :=
    Nat.le_trans (Nat.add_le_add_left (Nat.le_max_left t.probeGrace t.cooldown) last) hnow
  have hcooldown : last + t.cooldown ≤ now :=
    Nat.le_trans (Nat.add_le_add_left (Nat.le_max_right t.probeGrace t.cooldown) last) hnow
  cases hs : b.state with
  | closed =>
    rw [acquire_eq, hs]
    exact .inl ⟨_, _, rfl⟩
  | «open» =>
    have hcooled : t.cooldown ≤ now.since b.transitionedAt :=
      le_since (Nat.le_trans (Nat.add_le_add_right hd.transitionedAt t.cooldown) hcooldown)
    rw [acquire_eq, hs]
    simp only [if_pos hcooled]
    exact .inl ⟨_, _, rfl⟩
  | halfOpen =>
    cases hprobes : b.probes with
    | nil => exact .inl ⟨_, _, acquire_vacant hs hprobes hp now⟩
    | cons f fs =>
      have hout : f ∈ b.probes := by simp [hprobes]
      rw [acquire_eq, hs]
      exact .inr (if_pos (hd.overdue hout hgrace))

theorem Step.still_open (hs : Step b turn b') (hb : b.Shape) (ho : b.state = .open)
    (hn : turn.ticket? = none) : b'.state = .open ∧ b'.transitionedAt = b.transitionedAt := by
  cases hs with
  | refuse | discard => exact ⟨ho, rfl⟩
  | tryOut => cases hn
  | pass _ _ state | expire _ _ state | probe _ _ state | exhaust _ _ state =>
    rw [ho] at state
    cases state
  | ignore _ _ _ _ known | sample _ _ _ _ _ known | trip _ _ _ _ _ known | fail _ _ _ _ known
  | succeed _ _ _ _ known | close _ _ _ _ known | waste _ _ _ _ _ known =>
    exact absurd (.inl ho) (hb.not_waste known)

theorem still_open_run (hb : b.Shape) (ho : b.state = .open) (later : List Input)
    (hn : ∀ turn ∈ b.history later, turn.ticket? = none) :
    (b.run later).state = .open ∧ (b.run later).transitionedAt = b.transitionedAt := by
  induction later generalizing b with
  | nil => exact ⟨ho, rfl⟩
  | cons i later ih =>
    have hs := step_spec b i
    obtain ⟨hfirst, hrest⟩ := List.forall_mem_cons.1 hn
    obtain ⟨hstate, hsince⟩ := hs.still_open hb ho hfirst
    obtain ⟨hstate', hsince'⟩ := ih (hb.step hs) hstate hrest
    exact ⟨hstate', hsince'.trans hsince⟩

theorem acquire_after_opening (hb : b.Shape) (ho : b.state = .open) (hsince : b.transitionedAt = now)
    {later : List Input} (hn : ∀ turn ∈ b.history later, turn.ticket? = none) {next : Instant}
    (hnext : now + t.cooldown ≤ next) :
    ∃ ticket, ((b.run later).acquire t next).1 = .admitted ticket true := by
  obtain ⟨hstate, hsame⟩ := still_open_run hb ho later hn
  have hcooled : t.cooldown ≤ next.since (b.run later).transitionedAt := by
    rw [hsame, hsince]
    exact le_since hnext
  rw [acquire_eq, hstate]
  simp only [if_pos hcooled]
  exact ⟨_, rfl⟩

/-- No key is locked out for good. Under thresholds that allow a probe, a request that comes when
grace and cooldown have passed since the last that the breaker has heard is let through, or else it
is refused together with a change to open; and then, of all requests that follow, each that comes
after its cooldown is let through if none has been before it. No outcome has to be reported for that. -/
theorem never_locked_out (t₀ : Thresholds) (start : Instant) (is : List Input) {last : Instant}
    (hstart : start ≤ last) (his : ∀ i ∈ is, i.instant ≤ last) (t : Thresholds)
    (hp : 1 ≤ t.probePermits) {now : Instant}
    (hnow : last + max t.probeGrace t.cooldown ≤ now) :
    let answer := ((fresh t₀ start).run is).acquire t now
    (∃ ticket probe, answer.1 = .admitted ticket probe) ∨
      answer.1 = .rejected .open .open ∧ answer.2.1 = some ⟨.halfOpen, .open⟩ ∧
        answer.2.2.state = .open ∧
        ∀ later : List Input, (∀ turn ∈ answer.2.2.history later, turn.ticket? = none) →
          ∀ (t' : Thresholds) (next : Instant), now + t'.cooldown ≤ next →
            ∃ ticket, ((answer.2.2.run later).acquire t' next).1 = .admitted ticket true := by
  intro answer
  have hd : ((fresh t₀ start).run is).Dated last := dated_run t₀ hstart is his
  have hb : ((fresh t₀ start).run is).Shape := shape_run t₀ start is
  obtain hin | hout := hd.acquire hp hnow
  · exact .inl hin
  · have hanswer : answer = (.rejected .open .open, some ⟨.halfOpen, .open⟩, _) := hout
    rw [hanswer]
    refine .inr ⟨rfl, rfl, rfl, ?_⟩
    intro later hn t' next hnext
    exact acquire_after_opening ((hb.asked t now).moveTo .open now) rfl rfl hn hnext

/-- The only probe is lost at 1; the request at 2 opens the breaker, and the one at 3 is a probe. -/
theorem let_through_after_lost_probe :
    let t := { Thresholds.standard with
      minimumCalls := 1, cooldownMs := 1, probeGraceMs := 1, probePermits := 1 }
    let is := [Input.acquire t 0, .record ⟨0, 0⟩ .failure 1 0, .acquire t 1000000]
    let answer := ((fresh t 0).run is).acquire t 2000000
    (∀ i ∈ is, i.instant ≤ 1000000) ∧ 1 ≤ t.probePermits ∧
      1000000 + max t.probeGrace t.cooldown ≤ 2000000 ∧
      answer.1 = .rejected .open .open ∧
      ∃ ticket, (answer.2.2.acquire t 3000000).1 = .admitted ticket true := by
  intro t is answer
  have his : ∀ i ∈ is, i.instant ≤ 1000000 := by decide
  have hnow : 1000000 + max t.probeGrace t.cooldown ≤ 2000000 := by decide
  have hrejected : answer.1 = .rejected .open .open := by decide +kernel
  obtain ⟨ticket, probe, hin⟩ | ⟨-, -, -, hlater⟩ :=
    never_locked_out t 0 is (Nat.zero_le 1000000) his t (by decide) hnow
  · cases hrejected.symm.trans hin
  · exact ⟨his, by decide, hnow, hrejected, hlater [] (by simp [history]) t 3000000 (by decide)⟩

end Turnstile.Breaker
