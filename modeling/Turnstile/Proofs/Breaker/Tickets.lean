import Turnstile.Proofs.Breaker.Shape
/-!
Tickets. The open admissions of a breaker are those that its history has handed out since the last
change of state and has not seen recorded; so every ticket counts once at most.
-/
namespace Turnstile.Breaker

namespace Turn

def ticket? : Turn → Option Ticket
  | .acquired _ _ (.admitted ticket _) _ => some ticket
  | _ => none

def probe : Turn → Bool
  | .acquired _ _ (.admitted _ probe) _ => probe
  | _ => false

/-- The turn hands out this ticket, as one of a probe or not, at this instant. -/
def Admits (ticket : Ticket) (probe : Bool) (issuedAt : Instant) (turn : Turn) : Prop :=
  turn.ticket? = some ticket ∧ turn.probe = probe ∧ turn.instant = issuedAt

def settles (ticket : Ticket) : Turn → Bool
  | .recorded given _ _ _ answer _ => given == ticket && answer == .applied
  | .acquired .. => false

variable {t : Thresholds} {now : Instant} {verdict : Verdict} {ticket : Ticket} {outcome : Outcome}
  {elapsed : Span} {answer : Recorded} {change : Option Transition}

@[simp] theorem ticket?_admitted {asProbe : Bool} :
    (acquired t now (.admitted ticket asProbe) change).ticket? = some ticket := rfl

@[simp] theorem ticket?_rejected {state : Circuit} {denial : Denial} :
    (acquired t now (.rejected state denial) change).ticket? = none := rfl

@[simp] theorem ticket?_recorded :
    (recorded ticket outcome elapsed now answer change).ticket? = none := rfl

@[simp] theorem probe_admitted {asProbe : Bool} :
    (acquired t now (.admitted ticket asProbe) change).probe = asProbe := rfl

@[simp] theorem settles_acquired : (acquired t now verdict change).settles ticket = false := rfl

@[simp] theorem settles_recorded {given : Ticket} :
    (recorded given outcome elapsed now answer change).settles ticket =
      (given == ticket && answer == .applied) := rfl

end Turn

/-- The ticket was handed out with no change of state since, and no report with it was applied. -/
def Pending (h : List Turn) (ticket : Ticket) : Prop :=
  Lately (fun turn => turn.ticket? = some ticket) h ∧ ∀ turn ∈ h, ¬ turn.settles ticket

def Outstanding (h : List Turn) (ticket : Ticket) (probe : Bool) (issuedAt : Instant) : Prop :=
  Lately (Turn.Admits ticket probe issuedAt) h ∧ ∀ turn ∈ h, ¬ turn.settles ticket

theorem Outstanding.pending {h : List Turn} {ticket : Ticket} {probe : Bool} {issuedAt : Instant}
    (ho : Outstanding h ticket probe issuedAt) : Pending h ticket :=
  ⟨ho.1.mono fun _ _ ha => ha.1, ho.2⟩

theorem Pending.outstanding {h : List Turn} {ticket : Ticket} (hp : Pending h ticket) :
    ∃ probe issuedAt, Outstanding h ticket probe issuedAt := by
  obtain ⟨⟨before, turn, after, he, ht, hq⟩, hn⟩ := hp
  exact ⟨turn.probe, turn.instant, ⟨before, turn, after, he, ⟨ht, rfl, rfl⟩, hq⟩, hn⟩

variable {b b' : Breaker} {turn : Turn} {h : List Turn}

theorem epoch_of_outstanding {ticket : Ticket} {call : InFlight}
    (known : b.outstanding? ticket = some call) : ticket.epoch = b.epoch := by
  unfold outstanding? at known
  split at known
  · assumption
  · cases known

theorem Step.mem_inFlight (hs : Step b turn b') (f : InFlight) :
    f ∈ b'.inFlight ↔
      turn.Admits ⟨b'.epoch, f.number⟩ f.probe f.issuedAt ∨
        turn.change = none ∧ f ∈ b.inFlight ∧ ¬ turn.settles ⟨b.epoch, f.number⟩ := by
  obtain ⟨number, probe, issuedAt⟩ := f
  cases hs with
  | pass | probe | tryOut =>
    simp [issue, moveTo, asked, adopt, Turn.Admits, nextTicket]
    grind
  | refuse | exhaust | discard => simp [asked, adopt, Turn.Admits]
  | expire | trip | fail | close => simp [moveTo, Turn.Admits]
  | ignore ticket _ _ _ known | sample ticket _ _ _ _ known | succeed ticket _ _ _ known
  | waste ticket _ _ _ _ known =>
    obtain ⟨epoch, given⟩ := ticket
    cases epoch_of_outstanding known
    simp [settled, succeeded, sampled, Turn.Admits]
    grind

theorem Step.ticket? (hs : Step b turn b') {ticket : Ticket} (ht : turn.ticket? = some ticket) :
    ticket = ⟨b'.epoch, b.nextNumber⟩ ∧ b'.nextNumber = b.nextNumber + 1 := by
  cases hs with
  | pass | probe | tryOut =>
    cases ht
    exact ⟨rfl, rfl⟩
  | _ => cases ht

theorem Step.nextNumber_le (hs : Step b turn b') : b.nextNumber ≤ b'.nextNumber := by
  cases hs with
  | pass | probe | tryOut => exact Nat.le_succ b.nextNumber
  | _ => exact Nat.le_refl b.nextNumber

theorem Step.settles (hs : Step b turn b') {ticket : Ticket} (ht : turn.settles ticket) :
    ∃ call, b.outstanding? ticket = some call := by
  cases hs with
  | ignore given _ _ call known | sample given _ _ _ call known | trip given _ _ _ call known
  | fail given _ _ call known | succeed given _ _ call known | close given _ _ call known
  | waste given _ _ _ call known =>
    have hg : given = ticket := by simpa using ht
    exact ⟨call, hg ▸ known⟩
  | _ => simp at ht

/-- What the history says of the admissions of a breaker. -/
structure Ledger (h : List Turn) (b : Breaker) : Prop where
  inFlight : ∀ f, f ∈ b.inFlight ↔ Outstanding h ⟨b.epoch, f.number⟩ f.probe f.issuedAt
  current : ∀ ticket, Lately (fun turn => turn.ticket? = some ticket) h → ticket.epoch = b.epoch
  issued : ∀ turn ∈ h, ∀ ticket, turn.ticket? = some ticket → ticket.number < b.nextNumber
  settled : ∀ turn ∈ h, ∀ ticket, turn.settles ticket → ticket.number < b.nextNumber

theorem outstanding_snoc {ticket : Ticket} {probe : Bool} {issuedAt : Instant} :
    Outstanding (h ++ [turn]) ticket probe issuedAt ↔
      (turn.Admits ticket probe issuedAt ∧ (∀ x ∈ h, ¬ x.settles ticket) ∨
        turn.change = none ∧ Outstanding h ticket probe issuedAt) ∧ ¬ turn.settles ticket := by
  unfold Outstanding
  rw [lately_snoc]
  simp only [List.mem_append, List.mem_singleton, or_imp, forall_and, forall_eq]
  tauto

theorem Ledger.unsettled (hl : Ledger h b) (hs : Step b turn b') {ticket : Ticket}
    (ht : turn.ticket? = some ticket) : ∀ x ∈ h ++ [turn], ¬ x.settles ticket := by
  intro x hx hx'
  rcases List.mem_append.1 hx with hx | hx
  · have hlt := hl.settled x hx ticket hx'
    rw [(hs.ticket? ht).1] at hlt
    exact Nat.lt_irrefl b.nextNumber hlt
  · rw [List.mem_singleton.1 hx] at hx'
    cases turn with
    | acquired => cases hx'
    | recorded => cases ht

theorem Ledger.step (hl : Ledger h b) (hb : b.Shape) (hs : Step b turn b') :
    Ledger (h ++ [turn]) b' where
  inFlight f := by
    rw [hs.mem_inFlight]
    constructor
    · rintro (ha | ⟨hq, hf, hn⟩)
      -- No report can have come before a ticket with a number as high as this one.
      · exact ⟨lately_snoc.2 (.inl ha), hl.unsettled hs ha.1⟩
      · rw [(hs.quiet hq).2.1]
        exact outstanding_snoc.2 ⟨.inr ⟨hq, (hl.inFlight f).1 hf⟩, hn⟩
    · intro ho
      obtain ⟨⟨ha, -⟩ | ⟨hq, ho⟩, hn⟩ := outstanding_snoc.1 ho
      · exact .inl ha
      · rw [(hs.quiet hq).2.1] at ho hn
        exact .inr ⟨hq, (hl.inFlight f).2 ho, hn⟩
  current ticket hc := by
    rcases lately_snoc.1 hc with ht | ⟨hq, hc⟩
    · rw [(hs.ticket? ht).1]
    · rw [(hs.quiet hq).2.1]
      exact hl.current ticket hc
  issued x hx ticket ht := by
    rcases List.mem_append.1 hx with hx | hx
    · exact Nat.lt_of_lt_of_le (hl.issued x hx ticket ht) hs.nextNumber_le
    · rw [List.mem_singleton.1 hx] at ht
      obtain ⟨rfl, hn⟩ := hs.ticket? ht
      exact hn ▸ Nat.lt_succ_self b.nextNumber
  settled x hx ticket ht := by
    refine Nat.lt_of_lt_of_le ?_ hs.nextNumber_le
    rcases List.mem_append.1 hx with hx | hx
    · exact hl.settled x hx ticket ht
    · rw [List.mem_singleton.1 hx] at ht
      obtain ⟨call, hk⟩ := hs.settles ht
      obtain ⟨rfl, hm⟩ := hb.outstanding?_eq_some.1 hk
      exact hb.numbered call hm

theorem ledger_fresh (t : Thresholds) (start : Instant) : Ledger [] (fresh t start) where
  inFlight _ := ⟨fun hf => absurd hf List.not_mem_nil, fun ho => absurd ho.1 (lately_nil _)⟩
  current _ hc := absurd hc (lately_nil _)
  issued _ ht := absurd ht List.not_mem_nil
  settled _ ht := absurd ht List.not_mem_nil

/-- A claim about the runs of a new breaker, with what is known of every run at hand. -/
theorem run_induction {P : List Turn → Breaker → Prop} (kind : Input → Prop) (t : Thresholds)
    (start : Instant) (new : P [] (fresh t start))
    (next : ∀ {h b turn b'}, Ledger h b → b.Shape → P h b → kind turn.input → Step b turn b' →
      P (h ++ [turn]) b')
    (is : List Input) (hk : ∀ i ∈ is, kind i) :
    let h := (fresh t start).history is
    let b := (fresh t start).run is
    Ledger h b ∧ P h b := by
  have key := history_induction (P := fun h b => Ledger h b ∧ b.Shape ∧ P h b) kind (fresh t start)
    ⟨ledger_fresh t start, shape_fresh t start, new⟩
    (fun ⟨hl, hb, hp⟩ hi hs => ⟨hl.step hb hs, hb.step hs, next hl hb hp hi hs⟩) is hk
  exact ⟨key.1, key.2.2⟩

theorem ledger_run (t : Thresholds) (start : Instant) (is : List Input) :
    Ledger ((fresh t start).history is) ((fresh t start).run is) :=
  (run_induction (P := fun _ _ => True) (fun _ => True) t start trivial
    (fun _ _ _ _ _ => trivial) is (fun _ _ => trivial)).1

theorem Ledger.isSome_outstanding? (hl : Ledger h b) (hb : b.Shape) (ticket : Ticket) :
    (b.outstanding? ticket).isSome ↔ Pending h ticket := by
  rw [Option.isSome_iff_exists]
  constructor
  · rintro ⟨call, hk⟩
    obtain ⟨rfl, hm⟩ := hb.outstanding?_eq_some.1 hk
    exact ((hl.inFlight call).1 hm).pending
  · intro hp
    obtain ⟨probe, issuedAt, ho⟩ := hp.outstanding
    obtain ⟨epoch, number⟩ := ticket
    cases hl.current _ hp.1
    exact ⟨⟨number, probe, issuedAt⟩, hb.outstanding?_eq_some.2 ⟨rfl, (hl.inFlight _).2 ho⟩⟩

theorem Ledger.probeOverdue_iff (hl : Ledger h b) (t : Thresholds) (now : Instant) :
    (b.asked t now).probeOverdue now ↔
      ∃ ticket issuedAt, Outstanding h ticket true issuedAt ∧ t.probeGrace ≤ now.since issuedAt := by
  have hp : (b.asked t now).probeOverdue now ↔
      ∃ f ∈ b.inFlight, f.probe = true ∧ t.probeGrace ≤ now.since f.issuedAt := by
    simp only [probeOverdue, probes, List.any_eq_true, List.mem_filter, decide_eq_true_eq, and_assoc]
    rfl
  rw [hp]
  constructor
  · rintro ⟨f, hf, hprobe, hlate⟩
    exact ⟨_, f.issuedAt, hprobe ▸ (hl.inFlight f).1 hf, hlate⟩
  · rintro ⟨⟨epoch, number⟩, issuedAt, ho, hlate⟩
    cases hl.current _ ho.pending.1
    exact ⟨⟨number, true, issuedAt⟩, (hl.inFlight _).2 ho, rfl, hlate⟩

theorem record_applied_iff (hl : Ledger h b) (hb : b.Shape) (ticket : Ticket) (outcome : Outcome)
    (elapsed : Span) (now : Instant) :
    (b.record ticket outcome elapsed now).1 = .applied ↔ Pending h ticket := by
  rw [← hl.isSome_outstanding? hb, record_eq]
  cases b.outstanding? ticket <;> simp

theorem record_discarded (hl : Ledger h b) (hb : b.Shape) {ticket : Ticket}
    (hn : ¬ Pending h ticket) (outcome : Outcome) (elapsed : Span) (now : Instant) :
    b.record ticket outcome elapsed now = (.discarded, none, { b with lastAccess := now }) := by
  rw [← hl.isSome_outstanding? hb, Option.not_isSome_iff_eq_none] at hn
  rw [record_eq, hn]

theorem ticket_numbers (t : Thresholds) (start : Instant) (is : List Input) :
    (((fresh t start).history is).filterMap Turn.ticket?).Pairwise (·.number < ·.number) := by
  refine (run_induction (P := fun h _ => (h.filterMap Turn.ticket?).Pairwise (·.number < ·.number))
    (fun _ => True) t start List.Pairwise.nil ?_ is (fun _ _ => trivial)).2
  intro h b turn b' hl _ ih _ hs
  rw [List.filterMap_append]
  refine List.pairwise_append.2 ⟨ih, ?_, ?_⟩
  · cases ht : turn.ticket? with
    | none =>
      rw [List.filterMap_cons_none ht]
      exact List.Pairwise.nil
    | some ticket =>
      rw [List.filterMap_cons_some ht]
      exact List.pairwise_singleton _ _
  · intro old ho new hn
    obtain ⟨x, hx, hxo⟩ := List.mem_filterMap.1 ho
    obtain ⟨y, hy, hyn⟩ := List.mem_filterMap.1 hn
    rw [List.mem_singleton.1 hy] at hyn
    rw [(hs.ticket? hyn).1]
    exact hl.issued x hx old hxo

theorem tickets_nodup (t : Thresholds) (start : Instant) (is : List Input) :
    (((fresh t start).history is).filterMap Turn.ticket?).Nodup := by
  refine (ticket_numbers t start is).imp fun hlt he => ?_
  rw [he] at hlt
  exact Nat.lt_irrefl _ hlt

theorem settled_at_most_once (t : Thresholds) (start : Instant) (is : List Input)
    (ticket : Ticket) : ((fresh t start).history is).countP (·.settles ticket) ≤ 1 := by
  refine (run_induction (P := fun h _ => h.countP (·.settles ticket) ≤ 1)
    (fun _ => True) t start (Nat.zero_le 1) ?_ is (fun _ _ => trivial)).2
  intro h b turn b' hl hb ih _ hs
  rw [List.countP_append, List.countP_singleton]
  split
  · next ht =>
    have hp : Pending h ticket :=
      (hl.isSome_outstanding? hb ticket).1 (Option.isSome_iff_exists.2 (hs.settles ht))
    exact Nat.add_le_add (Nat.le_of_eq (List.countP_eq_zero.2 hp.2)) (Nat.le_refl 1)
  · exact ih

/-- Reports are counted exactly once: a report counts if and only if its ticket was handed out with
no change of state since and no report with it counted before; any other report is discarded and
changes nothing but the last access. No two admissions share a ticket. -/
theorem record_exactly_once (t : Thresholds) (start : Instant) (is : List Input) :
    let h := (fresh t start).history is
    let b := (fresh t start).run is
    (∀ ticket outcome elapsed now,
      ((b.record ticket outcome elapsed now).1 = .applied ↔ Pending h ticket) ∧
      (¬ Pending h ticket →
        b.record ticket outcome elapsed now = (.discarded, none, { b with lastAccess := now }))) ∧
    (h.filterMap Turn.ticket?).Nodup ∧
    ∀ ticket, h.countP (·.settles ticket) ≤ 1 := by
  intro h b
  have hl : Ledger h b := ledger_run t start is
  have hb : b.Shape := shape_run t start is
  refine ⟨fun ticket outcome elapsed now => ⟨?_, fun hn => ?_⟩, ?_, settled_at_most_once t start is⟩
  · exact record_applied_iff hl hb ticket outcome elapsed now
  · exact record_discarded hl hb hn outcome elapsed now
  · exact (ticket_numbers t start is).imp fun hlt he => absurd hlt (by simp [he])

end Turnstile.Breaker
