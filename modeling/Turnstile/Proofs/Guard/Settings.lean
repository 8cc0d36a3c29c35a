import Turnstile.Proofs.Guard.Reload
import Turnstile.Proofs.Guard.Upkeep
/-!
By which settings a guard goes. The bucket and the breaker of a key hear of a quota and of thresholds
when a call of the key is asked for, under the policy of that call. A report is counted by the
thresholds that the breaker has taken over then, whatever has been put into effect since.
-/
namespace Turnstile

namespace Breaker

def Input.thresholds? : Input → Option Thresholds
  | .acquire t _ => some t
  | .record .. => none

theorem step_thresholds (b : Breaker) (i : Input) :
    (b.step i).2.thresholds = i.thresholds?.getD b.thresholds := by
  have hs := b.step_spec i
  have hi := b.step_input i
  generalize b.step i = answer at hs hi ⊢
  obtain ⟨turn, b'⟩ := answer
  subst hi
  cases hs <;> rfl

theorem run_thresholds (b : Breaker) {is : List Input} (hi : ∀ i ∈ is, i.thresholds? = none) :
    (b.run is).thresholds = b.thresholds := by
  induction is generalizing b with
  | nil => rfl
  | cons i is ih =>
    rw [run, ih _ fun j hj => hi j (List.mem_cons_of_mem i hj), step_thresholds,
      hi i List.mem_cons_self, Option.getD_none]

end Breaker

namespace Breakers

variable {r : Breakers} {key other : Key}

theorem breaker?_acquire_self (r : Breakers) (key : Key) (t : Thresholds) (now : Instant) :
    (r.acquire key t now).2.2.breaker? key =
      some (((r.breaker? key).getD (.fresh t now)).step (.acquire t now)).2 := by
  have hr : r.reached? (.acquire key t now) = _ := rfl
  obtain ⟨entry, he, -, hb, -⟩ := entries_of_reached hr
  rw [breaker?, show entry? (r.acquire key t now).2.2 key = some entry from he, Option.map_some, hb,
    breaker?]
  cases hk : r.entry? key with
  | none => rw [entryFor_eq_of_none hk, Option.map_none, Option.getD_none]
  | some old => rw [entryFor_eq_of_some hk, Option.map_some, Option.getD_some]

/-- The breaker of the key has had reports since, and nothing else. -/
def Reported (r : Breakers) (key : Key) (r' : Breakers) : Prop :=
  ∃ reports : List Breaker.Input, (∀ i ∈ reports, i.thresholds? = none) ∧
    r'.breaker? key = (r.breaker? key).map (·.run reports)

theorem reported_of_eq {r' : Breakers} (he : r'.breaker? key = r.breaker? key) :
    r.Reported key r' := by
  refine ⟨[], fun _ hi => absurd hi List.not_mem_nil, he.trans ?_⟩
  exact Option.map_id'.symm

theorem Reported.trans {r' r'' : Breakers} (hr : r.Reported key r') (hr' : r'.Reported key r'') :
    r.Reported key r'' := by
  obtain ⟨reports, hi, he⟩ := hr
  obtain ⟨reports', hi', he'⟩ := hr'
  refine ⟨reports ++ reports', fun i hm => (List.mem_append.1 hm).elim (hi i) (hi' i), ?_⟩
  rw [he', he, Option.map_map]
  congr 1
  funext b
  exact (b.run_append reports reports').symm

theorem reported_complete (r : Breakers) (permit : BreakerPermit) (outcome : Outcome)
    (elapsed : Span) (now : Instant) (key : Key) :
    r.Reported key (r.complete permit outcome elapsed now).2.2 := by
  cases hr : r.reached? (.complete permit outcome elapsed now) with
  | none => exact reported_of_eq (congrArg (breaker? · key) (after_of_unreached hr (by simp)).1)
  | some reached =>
    obtain ⟨own, entry, i⟩ := reached
    obtain ⟨entry', he, hothers, hb, -⟩ := entries_of_reached hr
    by_cases hk : key = own
    · subst hk
      obtain hold | ⟨-, t, now, hi, -⟩ := entry?_of_reached hr
      · obtain ⟨_, -, heq⟩ := Option.map_eq_some_iff.1 hr
        cases heq
        refine ⟨[.record permit.ticket outcome elapsed now], by simp [Breaker.Input.thresholds?], ?_⟩
        rw [breaker?, show entry? (r.complete permit outcome elapsed now).2.2 _ = _ from he, breaker?,
          hold, Option.map_some, hb]
        rfl
      · cases hi
    · have hsame : entry? (r.complete permit outcome elapsed now).2.2 key = r.entry? key :=
        hothers key hk
      exact reported_of_eq (by rw [breaker?, breaker?, hsame])

end Breakers

namespace Guard

variable {α : Type} {g g' g'' : Guard α} {key other : Key} {policy : Policy}

/-- Time has gone on since, and calls have been reported; none has been asked for. -/
inductive Aftermath (g : Guard α) : Guard α → Prop
  | refl : Aftermath g g
  | complete {g' : Guard α} (p : Permit) (status : CallStatus) (before : Aftermath g g') :
      Aftermath g (g'.complete p status).2
  | advance {g' : Guard α} (span : Span) (before : Aftermath g g') : Aftermath g (g'.advance span)

theorem Aftermath.trans (ha : Aftermath g g') (ha' : Aftermath g' g'') : Aftermath g g'' := by
  induction ha' with
  | refl => exact ha
  | complete p status _ ih => exact ih.complete p status
  | advance span _ ih => exact ih.advance span

theorem Ends.aftermath {slot after : Option Permit} (he : Ends g slot after g') : Aftermath g g' := by
  cases he with
  | kept => exact .refl
  | reported p status => exact .complete p status .refl

theorem aftermath_conclude (g : Guard α) (slot : Option Permit) (status : CallStatus) :
    Aftermath g (g.conclude slot status) := by
  cases slot with
  | none => exact .refl
  | some p => exact .complete p status .refl

theorem Aftermath.limiter (ha : Aftermath g g') : g'.limiter = g.limiter := by
  induction ha with
  | refl => rfl
  | complete p status _ ih => exact (complete_frame _ p status).2.2.1.trans ih
  | advance span _ ih => exact ih

theorem Aftermath.snapshot (ha : Aftermath g g') : g'.snapshot = g.snapshot := by
  induction ha with
  | refl => rfl
  | complete p status _ ih => exact (complete_frame _ p status).2.1.trans ih
  | advance span _ ih => exact ih

theorem Aftermath.reported (ha : Aftermath g g') (key : Key) :
    g.breakers.Reported key g'.breakers := by
  induction ha with
  | refl => exact Breakers.reported_of_eq rfl
  | @complete g' p status _ ih =>
    refine ih.trans ?_
    rw [(g'.complete_frame p status).2.2.2]
    cases p.breaker with
    | none => exact Breakers.reported_of_eq rfl
    | some permit => exact Breakers.reported_complete _ permit _ _ _ key
  | advance span _ ih => exact ih

theorem Slot.breaker? {answer : Except Circuit (Option BreakerPermit)}
    (hs : Slot g key policy answer g') :
    g'.breakers.breaker? key = match policy.thresholds with
      | none => g.breakers.breaker? key
      | some t => some (((g.breakers.breaker? key).getD (.fresh t g.now)).run
          [.acquire t g.now]) := by
  cases hs with
  | unasked off => rw [off]
  | @taken t _ _ _ on acquired | @denied t _ _ _ _ on acquired =>
    have hb := g.breakers.breaker?_acquire_self key t g.now
    rw [acquired] at hb
    rw [on]
    exact hb

/-- No call of the key is asked for: its bucket is as it is found, or gone, and if its breaker is not
gone, it has had reports alone and goes by its old thresholds. `look` is the quota of one who only
looks at the bucket. -/
structure Interlude [Quantity α] (g : Guard α) (key : Key) (look : Option Quota) (g' : Guard α) :
    Prop where
  bucket : ∀ entry, g'.limiter.get? key = some entry →
    (look.elim g.limiter fun q => (g.limiter.available key q g.now).2).get? key = some entry
  breaker : ∀ b', g'.breakers.breaker? key = some b' → ∃ b reports,
    g.breakers.breaker? key = some b ∧ (∀ i ∈ reports, Breaker.Input.thresholds? i = none) ∧
      b' = b.run reports ∧ b'.thresholds = b.thresholds

variable [Quantity α]

theorem interlude_of_reported (hl : g'.limiter.get? key = g.limiter.get? key)
    (hr : g.breakers.Reported key g'.breakers) : Interlude g key none g' := by
  refine ⟨fun entry he => hl.symm.trans he, fun b' hb => ?_⟩
  obtain ⟨reports, hi, he⟩ := hr
  obtain ⟨b, hold, rfl⟩ := Option.map_eq_some_iff.1 (he.symm.trans hb)
  exact ⟨b, reports, hold, hi, rfl, b.run_thresholds hi⟩

theorem interlude_of_eq (hl : g'.limiter = g.limiter) (hb : g'.breakers = g.breakers) :
    Interlude g key none g' :=
  interlude_of_reported (hl ▸ rfl) (Breakers.reported_of_eq (hb ▸ rfl))

theorem Aftermath.interlude (ha : Aftermath g g') (key : Key) : Interlude g key none g' :=
  interlude_of_reported (ha.limiter ▸ rfl) (ha.reported key)

theorem Told.interlude {cs : List Config} (ht : Told g cs g') (key : Key) :
    Interlude g key none g' :=
  interlude_of_eq ht.frame.2.1 ht.frame.2.2.1

theorem Interlude.trans (hi : Interlude g key none g') (hi' : Interlude g' key none g'') :
    Interlude g key none g'' := by
  refine ⟨fun entry he => hi.bucket entry (hi'.bucket entry he), fun b'' hb => ?_⟩
  obtain ⟨b', reports', hlater, hr', rfl, ht'⟩ := hi'.breaker b'' hb
  obtain ⟨b, reports, hold, hr, rfl, ht⟩ := hi.breaker b' hlater
  refine ⟨b, reports ++ reports', hold, fun i hm => ?_, (b.run_append _ _).symm, ht'.trans ht⟩
  exact (List.mem_append.1 hm).elim (hr i) (hr' i)

theorem interlude_sweep (hd : g.Distinct) (key : Key) : Interlude g key none g.sweep.2 := by
  refine ⟨fun entry he => hd.limiter.get?_of_sweep _ _ _ _ he, fun b' hb => ?_⟩
  obtain ⟨entry, he, rfl⟩ := Option.map_eq_some_iff.1 hb
  have hold : g.breakers.entry? key = some entry := Breakers.entry?_of_after_sweep hd.breakers he
  exact ⟨entry.breaker, [], by simp [Breakers.breaker?, hold], by simp, rfl, rfl⟩

theorem interlude_sweeps (hd : g.Distinct) (n : Nat) (key : Key) :
    Interlude g key none (g.sweeps n) := by
  -- A sweep finds an entry again by its key, so that the keys have to stay distinct all along.
  have hboth : Interlude g key none (g.sweeps n) ∧ (g.sweeps n).Distinct := by
    induction n with
    | zero => exact ⟨interlude_of_eq rfl rfl, hd⟩
    | succ n ih => exact ⟨ih.1.trans (interlude_sweep ih.2 key), ih.2.sweep⟩
  exact hboth.1

theorem interlude_runSweeper (hd : g.Distinct) (wait : Span) (key : Key) :
    Interlude g key none (g.runSweeper wait) := by
  have hreport : ∀ (g : Guard α) notices, Interlude g key none (g.report notices) :=
    fun _ _ => interlude_of_eq rfl rfl
  have hstarted : ∀ notices, (g.report notices).Distinct := fun _ => ⟨hd.limiter, hd.breakers⟩
  unfold runSweeper
  exact ((hreport g _).trans (interlude_sweeps (hstarted _) _ key)).trans (hreport _ _)

theorem snapshot_sweeps (g : Guard α) (n : Nat) : (g.sweeps n).snapshot = g.snapshot := by
  induction n with
  | zero => rfl
  | succ n ih => exact ih

theorem snapshot_runSweeper (g : Guard α) (wait : Span) :
    (g.runSweeper wait).snapshot = g.snapshot := by
  -- The last report is taken off by rewriting: to compare the guards as terms would run the sweeper.
  have hreport : ∀ (g : Guard α) notices, (g.report notices).snapshot = g.snapshot := fun _ _ => rfl
  rw [runSweeper, hreport]
  exact (snapshot_sweeps _ _).trans (hreport g _)

theorem interlude_available (g : Guard α) (own key : Key) (q : Quota) :
    Interlude g key (if own = key then some q else none) (g.available own q).2 := by
  have hbucket : ∀ entry, (g.available own q).2.limiter.get? key = some entry →
      ((if own = key then some q else none).elim g.limiter fun q =>
        (g.limiter.available key q g.now).2).get? key = some entry := by
    intro entry he
    by_cases hk : own = key
    · subst hk
      rwa [if_pos rfl]
    · rw [if_neg hk]
      cases hb : g.limiter.get? own with
      | none => simpa [available, Limiter.available, hb] using he
      | some old =>
        rw [available, Limiter.available, hb] at he
        exact (Registry.get?_insert_of_ne _ _ (Ne.symm hk)).symm.trans he
  exact ⟨hbucket, fun b hb => ⟨b, [], hb, by simp, rfl, rfl⟩⟩

def asks? (g : Guard α) (key : Key) (policy : Policy) : Option Thresholds :=
  if g.limiter.affords key policy g.now then policy.thresholds else none

/-- A call of the key has been asked for under this policy: its bucket has been asked by the quota of
the policy, and its breaker by the thresholds of the policy; whatever has come to the breaker
afterwards, it were reports. -/
structure Acquired (g : Guard α) (key : Key) (policy : Policy) (g' : Guard α) : Prop where
  bucket : g'.limiter.get? key = policy.quota.elim (g.limiter.get? key) fun q =>
    (g.limiter.acquire key q policy.tokenCost g.now).2.2.get? key
  breaker : ∃ reports : List Breaker.Input, (∀ i ∈ reports, i.thresholds? = none) ∧
    g'.breakers.breaker? key = match g.asks? key policy with
      | none => (g.breakers.breaker? key).map (·.run reports)
      | some t => some (((g.breakers.breaker? key).getD (.fresh t g.now)).run
          (.acquire t g.now :: reports))

theorem takeTokens_own (g : Guard α) (key : Key) (policy : Policy) :
    (g.takeTokens key policy).2.limiter.get? key = policy.quota.elim (g.limiter.get? key) fun q =>
      (g.limiter.acquire key q policy.tokenCost g.now).2.2.get? key := by
  unfold takeTokens
  cases policy.quota <;> rfl

theorem Entry.acquired {answer : Except Rejection Permit} (he : Entry g key policy answer g') :
    Acquired g key policy g' := by
  obtain ⟨hnow, -, hbreakers, -⟩ := g.takeTokens_frame key policy
  refine ⟨by rw [he.limiter, takeTokens_own], [], fun _ hi => absurd hi List.not_mem_nil, ?_⟩
  have hfirst : (g.takeTokens key policy).1 = g.limiter.affords key policy g.now := takeTokens_fst
  have hunasked : (g.breakers.breaker? key).map (·.run []) = g.breakers.breaker? key := Option.map_id'
  cases he with
  | throttled short =>
    rw [asks?, ← hfirst, if_neg (by simp [short]), hunasked]
    exact congrArg (·.breaker? key) hbreakers
  | refused paid slot | passed paid slot =>
    have hslot := slot.breaker?
    rw [hnow, hbreakers] at hslot
    rw [asks?, ← hfirst, if_pos paid, hunasked]
    exact hslot

/-- Reports that come afterwards do not change by which settings a call was asked for. -/
theorem Acquired.then (ha : Acquired g key policy g') (hr : Aftermath g' g'') :
    Acquired g key policy g'' := by
  obtain ⟨reports, hi, hb⟩ := ha.breaker
  obtain ⟨reports', hi', hb'⟩ := hr.reported key
  refine ⟨hr.limiter ▸ ha.bucket, reports ++ reports', fun i hm => ?_, ?_⟩
  · exact (List.mem_append.1 hm).elim (hi i) (hi' i)
  · rw [hb', hb]
    cases g.asks? key policy with
    | none => simp [Option.map_map, Function.comp_def, Breaker.run_append]
    | some t => simp [Breaker.run, Breaker.run_append]

theorem Entry.interlude {answer : Except Rejection Permit} (he : Entry g key policy answer g')
    (hne : other ≠ key) : Interlude g other none g' := by
  obtain ⟨-, -, hothers⟩ := he.frame
  obtain ⟨hbucket, hentry⟩ := hothers other hne
  exact interlude_of_reported hbucket
    (Breakers.reported_of_eq (by rw [Breakers.breaker?, Breakers.breaker?, hentry]))

end Guard
end Turnstile
