import Turnstile.Proofs.Breaker.History
import Turnstile.Proofs.Breaker.Window
import Mathlib.Data.List.Nodup
/-!
The shape of a breaker: what each state leaves empty, how the open admissions are numbered, and that
the window is as large as the thresholds say. Every run keeps it, so that no report that counts is
without use.
-/
namespace Turnstile.Breaker

structure Shape (b : Breaker) : Prop where
  window : b.window.Sound
  capacity : b.window.size = max b.thresholds.windowSize 1
  /-- Only a closed breaker has samples. -/
  samples : b.state ≠ .closed → b.window.samples = []
  /-- The open admissions of a half-open breaker are its probes, and no other breaker has any. -/
  probes : ∀ f ∈ b.inFlight, (f.probe = true ↔ b.state = .halfOpen)
  idle : b.state = .open → b.inFlight = []
  successes : b.state ≠ .halfOpen → b.probeSuccesses = 0
  numbered : ∀ f ∈ b.inFlight, f.number < b.nextNumber
  distinct : b.inFlight.Pairwise (·.number < ·.number)

variable {b b' : Breaker} {turn : Turn}

theorem shape_fresh (t : Thresholds) (now : Instant) : (fresh t now).Shape where
  window := Window.sound_ofSize t.windowSize
  capacity := rfl
  samples := fun _ => rfl
  probes := by simp [fresh]
  idle := fun _ => rfl
  successes := fun _ => rfl
  numbered := by simp [fresh]
  distinct := List.Pairwise.nil

theorem Shape.asked (hb : b.Shape) (t : Thresholds) (now : Instant) : (b.asked t now).Shape :=
  { hb with
    window := hb.window.resize t.windowSize
    capacity := Window.resize_size b.window t.windowSize
    samples := fun hs => by
      show (b.window.resize t.windowSize).samples = []
      rw [Window.resize_samples, hb.samples hs, List.take_nil] }

theorem Shape.moveTo (hb : b.Shape) (target : Circuit) (now : Instant) :
    (b.moveTo target now).Shape where
  window := Window.sound_clear hb.window.room
  capacity := hb.capacity
  samples := fun _ => rfl
  probes := by simp [Breaker.moveTo]
  idle := fun _ => rfl
  successes := fun _ => rfl
  numbered := by simp [Breaker.moveTo]
  distinct := List.Pairwise.nil

theorem Shape.issue (hb : b.Shape) {probe : Bool} (ho : b.state ≠ .open)
    (hp : probe = true ↔ b.state = .halfOpen) (now : Instant) : (b.issue probe now).2.Shape :=
  { hb with
    probes := fun f hf => by
      rcases List.mem_append.1 hf with hf | hf
      · exact hb.probes f hf
      · rw [List.mem_singleton.1 hf]
        exact hp
    idle := fun hs => absurd hs ho
    numbered := fun f hf => by
      rcases List.mem_append.1 hf with hf | hf
      · exact Nat.lt_succ_of_lt (hb.numbered f hf)
      · rw [List.mem_singleton.1 hf]
        exact Nat.lt_succ_self b.nextNumber
    distinct := by
      refine List.pairwise_append.2 ⟨hb.distinct, List.pairwise_singleton _ _, ?_⟩
      intro f hf g hg
      rw [List.mem_singleton.1 hg]
      exact hb.numbered f hf }

theorem Shape.heard (hb : b.Shape) (now : Instant) : Shape { b with lastAccess := now } :=
  { hb with }

theorem Shape.settled (hb : b.Shape) (ticket : Ticket) (now : Instant) :
    (b.settled ticket now).Shape :=
  { hb with
    probes := fun f hf => hb.probes f (List.mem_of_mem_filter hf)
    idle := fun hs => by
      show b.inFlight.filter _ = []
      rw [hb.idle hs, List.filter_nil]
    numbered := fun f hf => hb.numbered f (List.mem_of_mem_filter hf)
    distinct := hb.distinct.filter _ }

theorem Shape.sampled (hb : b.Shape) (hs : b.state = .closed) (outcome : Outcome) (elapsed : Span) :
    (b.sampled outcome elapsed).Shape :=
  { hb with
    window := hb.window.push _
    capacity := (Window.push_size _ _).trans hb.capacity
    samples := fun hn => absurd hs hn }

theorem Shape.succeeded (hb : b.Shape) (hs : b.state = .halfOpen) : b.succeeded.Shape :=
  { hb with successes := fun hn => absurd hs hn }

theorem Shape.step (hb : b.Shape) (hs : Step b turn b') : b'.Shape := by
  cases hs with
  | pass t now state =>
    have hc : (b.asked t now).state = .closed := state
    exact (hb.asked t now).issue (by simp [hc]) (by simp [hc]) now
  | refuse t now | exhaust t now => exact hb.asked t now
  | tryOut t now =>
    exact ((hb.asked t now).moveTo .halfOpen now).issue (by simp [Breaker.moveTo])
      (by simp [Breaker.moveTo]) now
  | expire t now => exact (hb.asked t now).moveTo .open now
  | probe t now state =>
    have hh : (b.asked t now).state = .halfOpen := state
    exact (hb.asked t now).issue (by simp [hh]) (by simp [hh]) now
  | discard ticket outcome elapsed now => exact hb.heard now
  | ignore ticket elapsed now => exact hb.settled ticket now
  | waste ticket outcome elapsed now => exact hb.settled ticket now
  | sample ticket outcome elapsed now call known counted state =>
    exact (hb.settled ticket now).sampled state outcome elapsed
  | trip ticket outcome elapsed now call known counted state =>
    exact ((hb.settled ticket now).sampled state outcome elapsed).moveTo .open now
  | fail ticket elapsed now => exact (hb.settled ticket now).moveTo .open now
  | succeed ticket elapsed now call known state =>
    exact (hb.settled ticket now).succeeded state
  | close ticket elapsed now call known state =>
    exact ((hb.settled ticket now).succeeded state).moveTo .closed now

theorem shape_run (t : Thresholds) (start : Instant) (is : List Input) :
    ((fresh t start).run is).Shape :=
  history_induction (P := fun _ b => b.Shape) (fun _ => True) (fresh t start) (shape_fresh t start)
    (fun hb _ hs => hb.step hs) is (fun _ _ => trivial)

theorem Shape.nodup (hb : b.Shape) : (b.inFlight.map (·.number)).Nodup :=
  List.pairwise_map.2 (hb.distinct.imp Nat.ne_of_lt)

theorem Shape.eq_of_number (hb : b.Shape) {f g : InFlight} (hf : f ∈ b.inFlight)
    (hg : g ∈ b.inFlight) (hn : f.number = g.number) : f = g :=
  List.inj_on_of_nodup_map hb.nodup hf hg hn

theorem Shape.inFlight_perm (hb : b.Shape) {call : InFlight} (hm : call ∈ b.inFlight) :
    b.inFlight.Perm (call :: b.inFlight.filter (·.number != call.number)) := by
  have hothers : b.inFlight.erase call = b.inFlight.filter (·.number != call.number) := by
    rw [(List.Nodup.of_map (·.number) hb.nodup).erase_eq_filter call]
    apply List.filter_congr
    intro f hf
    by_cases hn : f.number = call.number
    · rw [hb.eq_of_number hf hm hn, bne_self_eq_false, bne_self_eq_false]
    · have hne : f ≠ call := by
        rintro rfl
        exact hn rfl
      rw [bne_iff_ne.2 hne, bne_iff_ne.2 hn]
  rw [← hothers]
  exact List.perm_cons_erase hm

theorem Shape.outstanding?_eq_some (hb : b.Shape) {ticket : Ticket} {call : InFlight} :
    b.outstanding? ticket = some call ↔
      ticket = ⟨b.epoch, call.number⟩ ∧ call ∈ b.inFlight := by
  unfold outstanding?
  constructor
  · intro hk
    split at hk
    · next he =>
      have hn : call.number = ticket.number := by simpa using List.find?_some hk
      refine ⟨?_, List.mem_of_find?_eq_some hk⟩
      rw [← he, hn]
    · cases hk
  · rintro ⟨rfl, hm⟩
    rw [if_pos rfl]
    cases hf : b.inFlight.find? (·.number == call.number) with
    | none =>
      have hne := List.find?_eq_none.1 hf call hm
      exact absurd (beq_self_eq_true call.number) hne
    | some g =>
      have hn : g.number = call.number := by simpa using List.find?_some hf
      rw [hb.eq_of_number (List.mem_of_find?_eq_some hf) hm hn]

/-- No report is wasted: a call whose outcome is out belongs to a closed breaker, or is a probe of a
half-open one. -/
theorem Shape.not_waste (hb : b.Shape) {ticket : Ticket} {call : InFlight}
    (known : b.outstanding? ticket = some call) :
    ¬ (b.state = .open ∨ b.state = .halfOpen ∧ call.probe = false) := by
  obtain ⟨-, hm⟩ := hb.outstanding?_eq_some.1 known
  rintro (ho | ⟨hh, hp⟩)
  · rw [hb.idle ho] at hm
    exact List.not_mem_nil hm
  · have hp' := (hb.probes call hm).2 hh
    rw [hp] at hp'
    cases hp'

theorem Shape.window_eq (hb : b.Shape) (hs : b.state ≠ .closed) :
    b.window = .ofSize b.thresholds.windowSize := by
  rw [hb.window.eq_of_empty (hb.samples hs), hb.capacity]
  rfl

def takeSample (outcome : Outcome) (elapsed : Span) (now : Instant) (b : Breaker) :
    Option Transition × Breaker :=
  let b := b.sampled outcome elapsed
  if b.shouldTrip then (some ⟨.closed, .open⟩, b.moveTo .open now) else (none, b)

/-- Takes the result of a probe. A failure opens the circuit again, and the last success that was
needed closes it. -/
def takeResult (outcome : Outcome) (now : Instant) (b : Breaker) : Option Transition × Breaker :=
  match outcome with
  | .ignored => (none, b)
  | .failure => (some ⟨.halfOpen, .open⟩, b.moveTo .open now)
  | .success =>
    let b := b.succeeded
    if b.thresholds.successThreshold ≤ b.probeSuccesses then
      (some ⟨.halfOpen, .closed⟩, b.moveTo .closed now)
    else (none, b)

theorem count_eq_takeSample {outcome : Outcome} (ho : outcome ≠ .ignored) (hs : b.state = .closed)
    (call : InFlight) (elapsed : Span) (now : Instant) :
    b.count call outcome elapsed now = b.takeSample outcome elapsed now := by
  rw [count_eq, hs]
  cases outcome with
  | ignored => exact absurd rfl ho
  | success | failure => rfl

theorem count_eq_takeResult {call : InFlight} (hs : b.state = .halfOpen) (hp : call.probe = true)
    (outcome : Outcome) (elapsed : Span) (now : Instant) :
    b.count call outcome elapsed now = b.takeResult outcome now := by
  rw [count_eq, hs]
  cases outcome with
  | ignored => rfl
  | success | failure =>
    simp only [hp, if_true]
    rfl

/-- What the outcome of the admission `call` may count for, with what comes of it. -/
inductive Counts (b : Breaker) (call : InFlight) (outcome : Outcome) (elapsed : Span)
    (now : Instant) : Option Transition × Breaker → Prop
  | sample (state : b.state = .closed) (probe : call.probe = false) :
      Counts b call outcome elapsed now (b.takeSample outcome elapsed now)
  | result (state : b.state = .halfOpen) (probe : call.probe = true) :
      Counts b call outcome elapsed now (b.takeResult outcome now)

theorem Shape.counts_of_applied (hb : b.Shape) {ticket : Ticket} {outcome : Outcome}
    {elapsed : Span} {now : Instant} (ho : outcome ≠ .ignored)
    (ha : (b.record ticket outcome elapsed now).1 = .applied) :
    ∃ call ∈ b.inFlight, ticket = ⟨b.epoch, call.number⟩ ∧
      Counts (b.settled ticket now) call outcome elapsed now
        (b.record ticket outcome elapsed now).2 := by
  cases hk : b.outstanding? ticket with
  | none =>
    rw [record_eq, hk] at ha
    cases ha
  | some call =>
    obtain ⟨ht, hm⟩ := hb.outstanding?_eq_some.1 hk
    have hcount : (b.record ticket outcome elapsed now).2 =
        (b.settled ticket now).count call outcome elapsed now := by rw [record_eq, hk]
    refine ⟨call, hm, ht, ?_⟩
    rw [hcount]
    cases hs : b.state with
    | closed =>
      have hp : call.probe = false := by simpa [hs] using hb.probes call hm
      have hc : (b.settled ticket now).state = .closed := hs
      rw [count_eq_takeSample ho hc]
      exact .sample hc hp
    | «open» =>
      -- An open breaker has no admission out that a ticket could name.
      exact absurd (.inl hs) (hb.not_waste hk)
    | halfOpen =>
      have hp : call.probe = true := (hb.probes call hm).2 hs
      have hh : (b.settled ticket now).state = .halfOpen := hs
      rw [count_eq_takeResult hh hp]
      exact .result hh hp

/-- In every state that a breaker comes to: only a half-open one has probes out, and nothing but
probes; only a half-open one counts successes of probes; an open one has nothing out; and only a
closed one has samples. So every report that counts is a sample of a closed breaker or the result of
a probe of a half-open one. -/
theorem shape_by_state (t : Thresholds) (start : Instant) (is : List Input) :
    let b := (fresh t start).run is
    (b.state = .closed → (∀ f ∈ b.inFlight, f.probe = false) ∧ b.probeSuccesses = 0) ∧
    (b.state = .open →
      b.inFlight = [] ∧ b.window = .ofSize b.thresholds.windowSize ∧ b.probeSuccesses = 0) ∧
    (b.state = .halfOpen →
      (∀ f ∈ b.inFlight, f.probe = true) ∧ b.window = .ofSize b.thresholds.windowSize) ∧
    (∀ f ∈ b.inFlight, f.number < b.nextNumber) ∧
    b.window.size = max b.thresholds.windowSize 1 ∧
    ∀ ticket outcome elapsed now, outcome ≠ .ignored →
      (b.record ticket outcome elapsed now).1 = .applied →
      ∃ call ∈ b.inFlight, ticket = ⟨b.epoch, call.number⟩ ∧
        Counts (b.settled ticket now) call outcome elapsed now
          (b.record ticket outcome elapsed now).2 := by
  intro b
  have hb : b.Shape := shape_run t start is
  refine ⟨fun hs => ⟨fun f hf => ?_, hb.successes (by simp [hs])⟩,
    fun hs => ⟨hb.idle hs, hb.window_eq (by simp [hs]), hb.successes (by simp [hs])⟩,
    fun hs => ⟨fun f hf => (hb.probes f hf).2 hs, hb.window_eq (by simp [hs])⟩,
    hb.numbered, hb.capacity, fun _ _ _ _ ho ha => hb.counts_of_applied ho ha⟩
  simpa [hs] using hb.probes f hf

end Turnstile.Breaker
