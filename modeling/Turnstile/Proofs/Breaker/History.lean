import Turnstile.Proofs.Breaker.Run
/-!
What the history of a breaker tells of its state. Whatever happened after the last change of state
is still in force; `Lately` speaks of that part of a history.
-/
namespace Turnstile.Breaker

variable {b b' : Breaker} {turn : Turn} {h : List Turn}

theorem history_induction {P : List Turn → Breaker → Prop} (kind : Input → Prop) (b : Breaker)
    (start : P [] b)
    (next : ∀ {h b turn b'}, P h b → kind turn.input → Step b turn b' → P (h ++ [turn]) b')
    (is : List Input) (hk : ∀ i ∈ is, kind i) : P (b.history is) (b.run is) := by
  induction is using List.reverseRecOn with
  | nil => exact start
  | append_singleton is i ih =>
    have hi : kind ((b.run is).step i).1.input := by
      rw [step_input]
      exact hk i (by simp)
    rw [history_append, run_append]
    exact next (ih fun j hj => hk j (List.mem_append_left [i] hj)) hi (step_spec (b.run is) i)

theorem Step.quiet (hs : Step b turn b') (hq : turn.change = none) :
    b'.state = b.state ∧ b'.epoch = b.epoch ∧ b'.transitionedAt = b.transitionedAt := by
  cases hs with
  | tryOut | expire | trip | fail | close => cases hq
  | _ => exact ⟨rfl, rfl, rfl⟩

theorem Step.moved {c : Transition} (hs : Step b turn b') (hc : turn.change = some c) :
    c.source = b.state ∧ b'.state = c.target ∧ b'.epoch = b.epoch + 1 ∧
      b'.transitionedAt = turn.instant := by
  cases hs with
  | tryOut | expire | trip | fail | close =>
    cases hc
    refine ⟨?_, rfl, rfl, rfl⟩
    simp only [*]
  | _ => cases hc

/-- Some turn has `P`, and the state has not changed after it. -/
def Lately (P : Turn → Prop) (h : List Turn) : Prop :=
  ∃ before turn after, h = before ++ turn :: after ∧ P turn ∧ ∀ x ∈ after, x.change = none

theorem lately_nil (P : Turn → Prop) : ¬ Lately P [] := by
  rintro ⟨before, turn, after, he, -⟩
  exact absurd he.symm (by simp)

theorem lately_snoc {P : Turn → Prop} :
    Lately P (h ++ [turn]) ↔ P turn ∨ turn.change = none ∧ Lately P h := by
  constructor
  · rintro ⟨before, first, after, he, hp, hq⟩
    -- `turn` is `first` itself, or the last of those after it.
    induction after using List.reverseRecOn with
    | nil =>
      obtain ⟨-, he⟩ := List.append_inj' he rfl
      cases he
      exact .inl hp
    | append_singleton after last _ =>
      rw [← List.cons_append, ← List.append_assoc] at he
      obtain ⟨hh, he⟩ := List.append_inj' he rfl
      cases he
      exact .inr ⟨hq turn (by simp), before, first, after, hh, hp, fun x hx => hq x (by simp [hx])⟩
  · rintro (hp | ⟨hq, before, first, after, rfl, hp, ha⟩)
    · exact ⟨h, turn, [], rfl, hp, by simp⟩
    · refine ⟨before, first, after ++ [turn], by simp, hp, fun x hx => ?_⟩
      rcases List.mem_append.1 hx with hx | hx
      · exact ha x hx
      · rw [List.mem_singleton.1 hx, hq]

theorem Lately.mono {P Q : Turn → Prop} (hl : Lately P h) (hpq : ∀ x ∈ h, P x → Q x) :
    Lately Q h := by
  obtain ⟨before, first, after, rfl, hp, ha⟩ := hl
  exact ⟨before, first, after, rfl, hpq first (by simp) hp, ha⟩

/-- The turns since the last change of state, and this change as the last of them. The newest turn
comes first, in the turns given as well. -/
def lateTurns : List Turn → List Turn
  | [] => []
  | turn :: older => if turn.change = none then turn :: lateTurns older else [turn]

theorem lately_iff_lateTurns {P : Turn → Prop} :
    Lately P h ↔ ∃ turn ∈ lateTurns h.reverse, P turn := by
  induction h using List.reverseRecOn with
  | nil => simp [lately_nil, lateTurns]
  | append_singleton h turn ih =>
    rw [lately_snoc, ih, List.reverse_concat]
    by_cases hq : turn.change = none <;> simp [lateTurns, hq]

instance {P : Turn → Prop} [DecidablePred P] : Decidable (Lately P h) :=
  decidable_of_iff _ lately_iff_lateTurns.symm

def Turn.Changes (c : Transition) (now : Instant) (turn : Turn) : Prop :=
  turn.change = some c ∧ turn.instant = now

theorem state_of_lately {c : Transition} {since : Instant} (b : Breaker) (is : List Input)
    (hl : Lately (Turn.Changes c since) (b.history is)) :
    (b.run is).state = c.target ∧ (b.run is).transitionedAt = since := by
  refine history_induction
    (P := fun h b => Lately (Turn.Changes c since) h → b.state = c.target ∧ b.transitionedAt = since)
    (fun _ => True) b (fun hl => absurd hl (lately_nil _)) ?_ is (fun _ _ => trivial) hl
  intro h b turn b' ih _ hs hl
  rcases lately_snoc.1 hl with ⟨hc, ht⟩ | ⟨hq, hl⟩
  · obtain ⟨-, hstate, -, hsince⟩ := hs.moved hc
    exact ⟨hstate, hsince.trans ht⟩
  · obtain ⟨hstate, -, hsince⟩ := hs.quiet hq
    rw [hstate, hsince]
    exact ih hl

end Turnstile.Breaker
