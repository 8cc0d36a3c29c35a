import Turnstile.Proofs.Breaker.Tickets
import Mathlib.Data.List.DropRight
/-!
When a circuit opens. While thresholds stay the same, a closed breaker goes by the last samples
since it was created or closed, and opens as soon as they are enough and one of the shares is too
high.
-/
namespace Turnstile

/-- A failure is a failed call, and a slow call one that succeeded after its limit. -/
def Thresholds.judge (t : Thresholds) (outcome : Outcome) (elapsed : Span) : Sample where
  failure := outcome = .failure
  slow := outcome = .success ∧ ∃ limit ∈ t.slowCall, limit < elapsed

/-- Enough samples, and too many failures or slow calls among them. -/
def Thresholds.Exceeded (t : Thresholds) (samples : List Sample) : Prop :=
  max 1 (min t.minimumCalls t.windowSize) ≤ samples.length ∧
    (t.failureRate ≤ percentage (samples.countP (·.failure)) samples.length ∨
      t.slowCallRate ≤ percentage (samples.countP (·.slow)) samples.length)

instance (t : Thresholds) (samples : List Sample) : Decidable (t.Exceeded samples) :=
  inferInstanceAs (Decidable (_ ∧ _))

namespace Breaker

def Input.Under (t : Thresholds) : Input → Prop
  | .acquire given _ => given = t
  | .record .. => True

instance (t : Thresholds) : DecidablePred (Input.Under t)
  | .acquire given _ => inferInstanceAs (Decidable (given = t))
  | .record .. => inferInstanceAs (Decidable True)

def Turn.sample? (t : Thresholds) : Turn → Option Sample
  | .recorded _ outcome elapsed _ .applied _ =>
    if outcome = .ignored then none else some (t.judge outcome elapsed)
  | _ => none

def Turn.closes (turn : Turn) : Bool := turn.change.any (·.target == .closed)

/-- The samples since the breaker was created or last closed. -/
def samples (t : Thresholds) (h : List Turn) : List Sample :=
  (h.rtakeWhile (!·.closes)).filterMap (Turn.sample? t)

def recent (t : Thresholds) (samples : List Sample) : List Sample :=
  samples.rtake (max 1 t.windowSize)

theorem judge_eq_sample {t : Thresholds} {outcome : Outcome} (hc : outcome ≠ .ignored)
    (elapsed : Span) : t.sample outcome elapsed = t.judge outcome elapsed := by
  cases outcome with
  | ignored => exact absurd rfl hc
  | success | failure =>
    cases hl : t.slowCall <;> simp [Thresholds.sample, Thresholds.judge, hl]

theorem samples_nil (t : Thresholds) : samples t [] = [] := rfl

theorem samples_snoc (t : Thresholds) (h : List Turn) (turn : Turn) :
    samples t (h ++ [turn]) =
      if turn.closes then [] else samples t h ++ (turn.sample? t).toList := by
  unfold samples
  rw [List.rtakeWhile_concat]
  cases hc : turn.closes with
  | true => rfl
  | false => cases hs : turn.sample? t <;> simp [List.filterMap_append, hs]

theorem recent_append (t : Thresholds) (l : List Sample) (o : Option Sample) :
    (recent t (l ++ o.toList)).reverse =
      (o.toList ++ (recent t l).reverse).take (max t.windowSize 1) := by
  obtain ⟨k, hk⟩ : ∃ k, max 1 t.windowSize = k + 1 := ⟨max 1 t.windowSize - 1, by omega⟩
  simp only [recent, Nat.max_comm t.windowSize 1, hk, List.rtake_eq_reverse_take_reverse]
  cases o <;> simp [List.take_take]

theorem exceeded_reverse (t : Thresholds) (l : List Sample) :
    t.Exceeded l.reverse ↔ t.Exceeded l := by
  simp [Thresholds.Exceeded]

variable {b b' : Breaker} {turn : Turn} {h : List Turn} {t : Thresholds}

theorem Step.fixed (hs : Step b turn b') (ht : b.thresholds = t) (hu : turn.input.Under t) :
    b'.thresholds = t := by
  cases hs with
  | pass | refuse | tryOut | expire | probe | exhaust => exact hu
  | _ => exact ht

theorem steady_induction {P : List Turn → Breaker → Prop} (start : Instant)
    (new : P [] (fresh t start))
    (next : ∀ {h b turn b'}, b.Shape → b.thresholds = t → P h b → turn.input.Under t →
      Step b turn b' → P (h ++ [turn]) b')
    (is : List Input) (hu : ∀ i ∈ is, i.Under t) :
    let h := (fresh t start).history is
    let b := (fresh t start).run is
    b.thresholds = t ∧ P h b :=
  (run_induction (P := fun h b => b.thresholds = t ∧ P h b) (Input.Under t) t start ⟨rfl, new⟩
    (fun _ hb ⟨ht, hp⟩ hi hs => ⟨hs.fixed ht hi, next hb ht hp hi hs⟩) is hu).2

theorem Shape.window_asked (hb : b.Shape) (ht : b.thresholds = t) (now : Instant) :
    (b.asked t now).window = b.window := by
  subst ht
  exact Window.resize_self hb.window hb.capacity

theorem Step.cleared {c : Transition} (hs : Step b turn b') (hc : turn.change = some c) :
    b'.window.samples = [] ∧ b'.probeSuccesses = 0 := by
  cases hs with
  | tryOut | expire | trip | fail | close => exact ⟨rfl, rfl⟩
  | _ => cases hc

theorem Step.window (hs : Step b turn b') (hb : b.Shape) (ht : b.thresholds = t)
    (hu : turn.input.Under t) (hc : b'.state = .closed) (hq : turn.change = none) :
    b'.window.samples =
      ((turn.sample? t).toList ++ b.window.samples).take (max t.windowSize 1) := by
  have hcap : b.window.size = max t.windowSize 1 := ht ▸ hb.capacity
  have hfits : b.window.samples = b.window.samples.take (max t.windowSize 1) :=
    (List.take_of_length_le (hcap ▸ hb.window.fits)).symm
  have hstate : b.state = .closed := (hs.quiet hq).1 ▸ hc
  cases hs with
  | pass given now =>
    cases hu
    have hw : ((b.asked t now).issue false now).2.window = b.window := hb.window_asked ht now
    rw [hw]
    exact hfits
  | refuse _ _ state | probe _ _ state | exhaust _ _ state | succeed _ _ _ _ _ state =>
    rw [hstate] at state
    cases state
  | tryOut | expire | trip | fail | close => cases hq
  | discard | ignore => exact hfits
  | sample ticket outcome elapsed now call known counted =>
    have hp := Window.push_samples hb.window (b.thresholds.sample outcome elapsed)
    simp only [Turn.sample?, if_neg counted]
    rw [← ht, ← judge_eq_sample counted, ← hb.capacity]
    exact hp
  | waste _ _ _ _ _ known _ useless => exact absurd useless (hb.not_waste known)

theorem window_samples (start : Instant) (is : List Input) (hu : ∀ i ∈ is, i.Under t) :
    let h := (fresh t start).history is
    let b := (fresh t start).run is
    b.thresholds = t ∧
      (b.state = .closed → b.window.samples = (recent t (samples t h)).reverse) := by
  refine steady_induction
    (P := fun h b => b.state = .closed → b.window.samples = (recent t (samples t h)).reverse)
    start (fun _ => by simp [recent, samples_nil, fresh, Window.ofSize]) ?_ is hu
  intro h b turn b' hb ht ih hi hs hc
  rw [samples_snoc]
  cases hq : turn.change with
  | none =>
    have hstate : b.state = .closed := (hs.quiet hq).1 ▸ hc
    have hn : turn.closes = false := by simp [Turn.closes, hq]
    rw [hn, if_neg Bool.false_ne_true, recent_append, ← ih hstate]
    exact hs.window hb ht hi hc hq
  | some c =>
    -- The circuit closed just now, with no sample on either side.
    have hn : turn.closes = true := by
      have htarget : c.target = .closed := (hs.moved hq).2.1 ▸ hc
      simp [Turn.closes, hq, htarget]
    rw [hn, if_pos rfl, (hs.cleared hq).1]
    simp [recent]

theorem shouldTrip_iff (hw : b.window.Sound) :
    b.shouldTrip ↔ b.thresholds.Exceeded b.window.samples := by
  simp only [shouldTrip, Bool.and_eq_true, Bool.or_eq_true, decide_eq_true_eq]
  rw [Window.failureRate, Window.slowRate, hw.failures, hw.slow]
  exact Iff.rfl

theorem shouldTrip_sampled {l : List Sample} {outcome : Outcome} (hb : b.Shape)
    (ht : b.thresholds = t) (hc : b.state = .closed) (hl : b.window.samples = (recent t l).reverse)
    (counted : outcome ≠ .ignored) (ticket : Ticket) (elapsed : Span) (now : Instant) :
    ((b.settled ticket now).sampled outcome elapsed).shouldTrip ↔
      t.Exceeded (recent t (l ++ [t.judge outcome elapsed])) := by
  have hsound := ((hb.settled ticket now).sampled hc outcome elapsed).window
  have hpush : ((b.settled ticket now).sampled outcome elapsed).window.samples =
      (recent t (l ++ [t.judge outcome elapsed])).reverse := by
    have hp := Window.push_samples hb.window (b.thresholds.sample outcome elapsed)
    have hr := recent_append t l (some (t.judge outcome elapsed))
    rw [hb.capacity, ht, judge_eq_sample counted, hl] at hp
    rw [← judge_eq_sample counted, ← ht] at hp hr ⊢
    exact hp.trans hr.symm
  rw [shouldTrip_iff hsound, hpush, ← exceeded_reverse, List.reverse_reverse]
  exact ht ▸ Iff.rfl

theorem record_trips_iff {l : List Sample} (hb : b.Shape) (ht : b.thresholds = t)
    (hl : b.state = .closed → b.window.samples = (recent t l).reverse) (ticket : Ticket)
    (outcome : Outcome) (elapsed : Span) (now : Instant) :
    (b.record ticket outcome elapsed now).2.1 = some ⟨.closed, .open⟩ ↔
      b.state = .closed ∧ (b.record ticket outcome elapsed now).1 = .applied ∧
        outcome ≠ .ignored ∧ t.Exceeded (recent t (l ++ [t.judge outcome elapsed])) := by
  have hs := step_record ticket outcome elapsed now b
  simp only [step] at hs
  generalize b.record ticket outcome elapsed now = r at hs ⊢
  obtain ⟨answer, change, next⟩ := r
  dsimp only at hs ⊢
  cases hs with
  | discard | ignore => simp
  | sample _ _ _ _ call known counted state calm =>
    rw [shouldTrip_sampled hb ht state (hl state) counted] at calm
    simp [calm]
  | trip _ _ _ _ call known counted state exceeded =>
    rw [shouldTrip_sampled hb ht state (hl state) counted] at exceeded
    simp [state, counted, exceeded]
  | fail _ _ _ _ _ state | succeed _ _ _ _ _ state | close _ _ _ _ _ state => simp [state]
  | waste _ _ _ _ call known counted useless => exact absurd useless (hb.not_waste known)

/-- Under one set of thresholds a closed breaker counts the last samples since it was created or
closed. A report opens it if and only if it is applied, is no ignored one and makes these samples
exceed the thresholds; a request never does. -/
theorem trip_law (t : Thresholds) (start : Instant) (is : List Input)
    (hu : ∀ i ∈ is, i.Under t) :
    let h := (fresh t start).history is
    let b := (fresh t start).run is
    (b.state = .closed →
      b.window.length = (recent t (samples t h)).length ∧
      b.window.failures = (recent t (samples t h)).countP (·.failure)) ∧
    (∀ ticket outcome elapsed now,
      (b.record ticket outcome elapsed now).2.1 = some ⟨.closed, .open⟩ ↔
        b.state = .closed ∧ (b.record ticket outcome elapsed now).1 = .applied ∧
          outcome ≠ .ignored ∧
          t.Exceeded (recent t (samples t h ++ [t.judge outcome elapsed]))) ∧
    ∀ given now, b.state = .closed →
      (b.acquire given now).2.1 = none ∧ (b.acquire given now).2.2.state = .closed := by
  intro h b
  have hb : b.Shape := shape_run t start is
  obtain ⟨ht, hw⟩ := window_samples start is hu
  refine ⟨fun hc => ?_, record_trips_iff hb ht hw, fun given now hc => ?_⟩
  · rw [Window.length, hb.window.failures, hw hc]
    simp [h]
  · rw [acquire_eq, hc]
    exact ⟨rfl, hc⟩

/-- The first failure has slid out of the window; the third one makes it two of four. -/
theorem trips_at_two_of_last_four :
    let t := { Thresholds.standard with windowSize := 4, minimumCalls := 4 }
    let outcomes : List Outcome := [.failure, .success, .success, .success, .success, .failure]
    let is := outcomes.zipIdx.flatMap (fun (outcome, number) =>
      [Input.acquire t 0, .record ⟨0, number⟩ outcome 1 0]) ++ [.acquire t 0]
    (∀ i ∈ is, i.Under t) ∧
      (((fresh t 0).run is).record ⟨0, 6⟩ .failure 1 0).2.1 = some ⟨.closed, .open⟩ := by
  intro t outcomes is
  have hu : ∀ i ∈ is, i.Under t := by decide
  have key := (trip_law t 0 is hu).2.1 ⟨0, 6⟩ .failure 1 0
  exact ⟨hu, key.2 ⟨by decide +kernel, by decide +kernel, by decide, by decide +kernel⟩⟩

end Breaker
end Turnstile
