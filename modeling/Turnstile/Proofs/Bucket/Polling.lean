import Turnstile.Proofs.Bucket.Run
/-!
Polling. Under one quota, and as long as the clock does not go back, a query or a refused request
changes no later answer: a bucket that is refilled in pieces is refilled to the same in the end. What it
holds is told by its last grant and the time since.
-/
namespace Turnstile

theorem Quota.yield_since (q : Quota) {past now : Instant} (hp : past ≤ now) :
    q.yield (now.since past) =
      if 0 < q.refillTokens ∧ 0 < q.refillIntervalMs then
        q.refillTokens * ((now : Rat) - past) / q.refillInterval
      else 0 := by
  have hspan : ((now.since past : Nat) : Rat) = now - past := Nat.cast_sub hp
  unfold yield
  rw [hspan]
  split
  · next h => rw [max_eq_left h.1.le]
  · next h =>
    by_cases hr : 0 < q.refillTokens
    · have hms : q.refillIntervalMs = 0 := by
        by_contra hne
        exact h ⟨hr, Nat.pos_of_ne_zero hne⟩
      simp [refillInterval, Span.ofMillis, hms]
    · simp [max_eq_right (le_of_not_gt hr)]

namespace Bucket

variable {b c : Bucket Rat} {q : Quota} {start now : Instant} {is : List Input}

/-- From `start` on the two buckets cannot be told apart. -/
def AlikeFrom (q : Quota) (start : Instant) (b c : Bucket Rat) : Prop :=
  ∀ now, start ≤ now → b.refill q now = c.refill q now

theorem AlikeFrom.step (ha : AlikeFrom q start b c) {i : Input} (hq : i.quota = q)
    (hi : start ≤ i.instant) : b.step i = c.step i := by
  subst hq
  exact step_congr (ha i.instant hi)

theorem AlikeFrom.idle (ha : AlikeFrom q start b c) (hb : 0 ≤ b.tokens) {i : Input}
    (hq : i.quota = q) (hi : start ≤ i.instant) (hn : (b.step i).1.granted = false) :
    AlikeFrom q i.instant (b.step i).2 c := by
  intro now hnow
  rw [step_of_not_granted hn, hq, refill_refill hb q hnow]
  exact ha now (hi.trans hnow)

theorem AlikeFrom.run (ha : AlikeFrom q start b c) (hb : 0 ≤ b.tokens)
    (hq : ∀ i ∈ is, i.quota = q) (hs : (start :: is.map Input.instant).Pairwise (· ≤ ·))
    (hn : ∀ turn ∈ b.history is, turn.granted = false)
    (hnow : ∀ t ∈ start :: is.map Input.instant, t ≤ now) :
    (b.reach is).refill q now = c.refill q now := by
  induction is generalizing b start with
  | nil => exact ha now (hnow start (List.mem_singleton_self start))
  | cons i is ih =>
    obtain ⟨hqi, hqs⟩ := List.forall_mem_cons.1 hq
    obtain ⟨hni, hns⟩ := List.forall_mem_cons.1 hn
    obtain ⟨hfirst, hrest⟩ := List.pairwise_cons.1 hs
    have hi : start ≤ i.instant := hfirst i.instant List.mem_cons_self
    exact ih (ha.idle hb hqi hi hni) (step_bounds b i).1 hqs hrest hns
      (List.forall_mem_cons.1 hnow).2

theorem AlikeFrom.history (ha : AlikeFrom q start b c) (hb : 0 ≤ b.tokens)
    (hq : ∀ i ∈ is, i.quota = q) (hs : (start :: is.map Input.instant).Pairwise (· ≤ ·))
    {rest : List (Turn Rat)} (hsub : rest.Sublist (b.history is))
    (hgrants : rest.filter Turn.granted = (b.history is).filter Turn.granted) :
    c.history (rest.map Turn.input) = rest := by
  induction is generalizing b c start rest with
  | nil =>
    rw [List.sublist_nil.1 hsub]
    rfl
  | cons i is ih =>
    obtain ⟨hqi, hqs⟩ := List.forall_mem_cons.1 hq
    obtain ⟨hfirst, hrest⟩ := List.pairwise_cons.1 hs
    have hi : start ≤ i.instant := hfirst i.instant List.mem_cons_self
    have hnonneg : 0 ≤ (b.step i).2.tokens := (step_bounds b i).1
    cases hsub with
    | cons _ hsub =>
      -- The turn has been left out, so it is no grant: there are none too few.
      have hn : (b.step i).1.granted = false := by
        by_contra hg
        have hlt := congrArg List.length hgrants
        have hle := (hsub.filter Turn.granted).length_le
        rw [Bucket.history, List.filter_cons_of_pos (eq_true_of_ne_false hg), List.length_cons] at hlt
        omega
      rw [Bucket.history, List.filter_cons_of_neg (ne_true_of_eq_false hn)] at hgrants
      exact ih (ha.idle hb hqi hi hn) hnonneg hqs hrest hsub hgrants
    | cons_cons _ hsub =>
      rename_i rest
      have hsame : b.step i = c.step i := ha.step hqi hi
      have hgrants : rest.filter Turn.granted =
          ((b.step i).2.history is).filter Turn.granted := by
        cases hg : (b.step i).1.granted <;> simpa [Bucket.history, hg] using hgrants
      have hself : AlikeFrom q i.instant (b.step i).2 (b.step i).2 := fun _ _ => rfl
      rw [List.map_cons, step_input, Bucket.history, ← hsame]
      exact congrArg _ (ih hself hnonneg hqs hrest hsub hgrants)

theorem acquire_iff_since (hc : 0 < q.capacity) (hb : 0 ≤ b.tokens)
    (hq : ∀ i ∈ is, i.quota = q) (hn : ∀ turn ∈ b.history is, turn.granted = false)
    (hs : (b.lastRefill :: (is.map Input.instant ++ [now])).Pairwise (· ≤ ·)) (permits : Nat) :
    ((b.reach is).acquire q permits now).1 = true ↔
      (permits : Rat) ≤
        min (q.capacity : Rat) (b.tokens +
          if 0 < q.refillTokens ∧ 0 < q.refillIntervalMs then
            q.refillTokens * ((now : Rat) - b.lastRefill) / q.refillInterval
          else 0) + 1 / 1000000000 := by
  have hs : ((b.lastRefill :: is.map Input.instant) ++ [now]).Pairwise (· ≤ ·) := hs
  obtain ⟨hsorted, -, hle⟩ := List.pairwise_append.1 hs
  have hnow : ∀ t ∈ b.lastRefill :: is.map Input.instant, t ≤ now :=
    fun t ht => hle t ht now (List.mem_singleton_self now)
  have hself : AlikeFrom q b.lastRefill b b := fun _ _ => rfl
  have hsame : (b.reach is).refill q now = b.refill q now := hself.run hb hq hsorted hn hnow
  have hfull : (fullSize q : Rat) = q.capacity := fullSize_of_pos hc
  have hcap : (0 : Rat) ≤ q.capacity := hfull ▸ fullSize_nonneg q
  have hsum : 0 ≤ b.tokens + q.yield (now.since b.lastRefill) :=
    add_nonneg hb (q.yield_nonneg _)
  have hslack : (Quantity.slack : Rat) = 1 / 1000000000 := rfl
  rw [acquire_iff, hsame, refill_tokens, hfull, max_eq_right (le_min hcap hsum), hslack,
    q.yield_since (hnow _ List.mem_cons_self)]
  exact and_iff_right hc

/-- Under one quota, at instants that never go back: whatever queries and refused requests are left
out of a run, all that remain in it are answered as before. A request is granted if and only if its
price is covered, up to the slack, by what the last grant left and the time since has given back, as
far as it fits; before the first grant that is the full bucket as it was made. -/
theorem polling_law (q : Quota) (created : Instant) (is : List Input) (hq : ∀ i ∈ is, i.quota = q)
    (hs : (is.map Input.instant).Pairwise (· ≤ ·)) :
    let new : Bucket Rat := full q created
    (∀ rest : List (Turn Rat), rest.Sublist (new.history is) →
      rest.filter Turn.granted = (new.history is).filter Turn.granted →
      new.history (rest.map Turn.input) = rest) ∧
    (0 < q.capacity → ∀ (permits : Nat) (now : Instant),
      (created :: (is.map Input.instant ++ [now])).Pairwise (· ≤ ·) →
      let granted : Prop := ((new.reach is).acquire q permits now).1 = true
      let returned (past : Instant) : Rat :=
        if 0 < q.refillTokens ∧ 0 < q.refillIntervalMs then
          q.refillTokens * ((now : Rat) - past) / q.refillInterval
        else 0
      ((∀ turn ∈ new.history is, turn.granted = false) →
        (granted ↔ (permits : Rat) ≤
          min (q.capacity : Rat) (q.capacity + returned created) + 1 / 1000000000)) ∧
      ∀ before price past after, is = before ++ .acquire q price past :: after →
        let paid := (new.reach before).acquire q price past
        paid.1 = true → (∀ turn ∈ paid.2.history after, turn.granted = false) →
          (granted ↔ (permits : Rat) ≤
            min (q.capacity : Rat) (paid.2.tokens + returned past) + 1 / 1000000000)) := by
  intro new
  have hnew : 0 ≤ new.tokens := fullSize_nonneg q
  refine ⟨fun rest hsub hgrants => ?_, fun hc permits now hmono => ⟨fun hn => ?_, ?_⟩⟩
  · have hself : AlikeFrom q 0 new new := fun _ _ => rfl
    have hzero : (0 :: is.map Input.instant).Pairwise (· ≤ ·) :=
      List.pairwise_cons.2 ⟨fun t _ => Nat.zero_le t, hs⟩
    exact hself.history hnew hq hzero hsub hgrants
  · have hfull : new.tokens = q.capacity := fullSize_of_pos hc
    have key := acquire_iff_since hc hnew hq hn hmono permits
    rw [hfull] at key
    exact key
  · intro before price past after he paid _ hn
    subst he
    have hpaid : 0 ≤ paid.2.tokens := (step_bounds (new.reach before) (.acquire q price past)).1
    rw [List.map_append, List.map_cons, List.append_assoc, List.cons_append, ← List.cons_append]
      at hmono
    obtain ⟨-, hafter, hbefore⟩ := List.pairwise_append.1 hmono
    have hlast : paid.2.lastRefill = past := by
      have hseen := (isGreatest_reach new before).1
      have hle : (new.reach before).lastRefill ≤ past := hbefore _ hseen past List.mem_cons_self
      exact (acquire_lastRefill q price past (new.reach before)).trans (max_eq_right hle)
    have hqs : ∀ i ∈ after, i.quota = q := fun i hi => hq i (by simp [hi])
    have hreach : new.reach (before ++ .acquire q price past :: after) = paid.2.reach after :=
      reach_append new before (.acquire q price past :: after)
    rw [hreach, ← hlast]
    exact acquire_iff_since hc hpaid hqs hn (hlast.symm ▸ hafter) permits

/-- Polled at each third of the interval, the only token comes back after the whole of it. -/
theorem polled_bucket_refills :
    let q : Quota := ⟨1, 1, 900⟩
    let is := [Input.acquire q 1 0, .acquire q 1 (Span.ofMillis 300),
      .available q (Span.ofMillis 600), .acquire q 1 (Span.ofMillis 900)]
    let new : Bucket Rat := full q 0
    let h := new.history is
    let rest := h.take 1 ++ h.drop 3
    (∀ i ∈ is, i.quota = q) ∧ (is.map Input.instant).Pairwise (· ≤ ·) ∧
      rest.Sublist h ∧ rest.filter Turn.granted = h.filter Turn.granted ∧
      new.history (rest.map Turn.input) = rest ∧
      ((new.reach (is.take 3)).acquire q 1 (Span.ofMillis 900)).1 = true := by
  intro q is new h rest
  have hq : ∀ i ∈ is, i.quota = q := by decide
  have hs : (is.map Input.instant).Pairwise (· ≤ ·) := by decide
  have hsub : rest.Sublist h := by decide +kernel
  have hgrants : rest.filter Turn.granted = h.filter Turn.granted := by decide +kernel
  have hsame := (polling_law q 0 is hq hs).1 rest hsub hgrants
  have hq' : ∀ i ∈ is.take 3, i.quota = q := by decide
  have hs' : ((is.take 3).map Input.instant).Pairwise (· ≤ ·) := by decide
  have hlater := ((polling_law q 0 (is.take 3) hq' hs').2 (by decide) 1 (Span.ofMillis 900)
    (by decide)).2 [] 1 0 _ rfl (by decide +kernel) (by decide +kernel)
  exact ⟨hq, hs, hsub, hgrants, hsame, hlater.2 (by decide +kernel)⟩

end Bucket
end Turnstile
