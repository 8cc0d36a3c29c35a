import Turnstile.Proofs.Resolution.Settings
import Turnstile.Proofs.Session.Reload
/-!
Settings at their point of use. What buckets, windows and breakers do about settings out of range is never
made use of by a running guard. That a balance is cut to its capacity is what a capacity is, and that none
is negative after a grant has to do with the slack.
-/
namespace Turnstile

namespace Bucket

section Bare

variable {α : Type} [Quantity α]

def bareFull (q : Quota) (now : Instant) : Bucket α := ⟨Quantity.ofInt q.capacity, now⟩

/-- The bucket as it stands at `now`, if its quota and its balance are as they should be. -/
def bareRefill (q : Quota) (now : Instant) (b : Bucket α) : Bucket α :=
  let grown := b.tokens + Quantity.seconds (now.since b.lastRefill) /
    Quantity.seconds q.refillInterval * Quantity.ofInt q.refillTokens
  { tokens := if Quantity.ofInt q.capacity < grown then Quantity.ofInt q.capacity else grown
    lastRefill := max b.lastRefill now }

/-- A request to a bucket that takes its quota as it is. -/
def bareAcquire (q : Quota) (permits : Nat) (now : Instant) (b : Bucket α) : Bool × Bucket α :=
  let b := b.bareRefill q now
  if b.tokens + Quantity.slack < Quantity.ofInt permits then (false, b)
  else (true, { b with tokens := Quantity.floorZero (b.tokens - Quantity.ofInt permits) })

theorem fullSize_eq_bare {q : Quota} (hc : 0 < q.capacity) :
    (fullSize q : α) = Quantity.ofInt q.capacity := by
  rw [fullSize, max_eq_left hc.le]

theorem full_eq_bare {q : Quota} (hc : 0 < q.capacity) (now : Instant) :
    (full q now : Bucket α) = bareFull q now := by
  rw [full, fullSize_eq_bare hc]
  rfl

end Bare

variable {q : Quota} {b : Bucket Rat}

theorem refill_eq_bare (hq : q.Valid) (hb : 0 ≤ b.tokens) (now : Instant) :
    b.refill q now = b.bareRefill q now := by
  have hzero : (Quantity.ofInt 0 : Rat) = 0 := Rat.intCast_zero
  have hinterval : (Quantity.ofInt 0 : Rat) < Quantity.seconds q.refillInterval := by
    have hms : 0 < q.refillInterval := Nat.mul_pos hq.refillInterval (by decide)
    have hcast : (0 : Rat) < q.refillInterval := by exact_mod_cast hms
    rw [hzero]
    exact div_pos hcast (by norm_num)
  have hnonneg : ¬accrued q b.tokens (now.since b.lastRefill) < Quantity.ofInt 0 := by
    rw [hzero, accrued_rat]
    exact not_lt.2 (add_nonneg hb (q.yield_nonneg _))
  have hgrown : accrued q b.tokens (now.since b.lastRefill) =
      b.tokens + Quantity.seconds (now.since b.lastRefill) / Quantity.seconds q.refillInterval *
        Quantity.ofInt q.refillTokens := if_pos ⟨hq.refillTokens, hinterval⟩
  rw [refill, Quantity.clamp, if_neg hnonneg, fullSize_eq_bare hq.capacity, hgrown]
  rfl

theorem acquire_eq_bare (hq : q.Valid) (hb : 0 ≤ b.tokens) (permits : Nat) (now : Instant) :
    b.acquire q permits now = b.bareAcquire q permits now := by
  rw [acquire_eq, refill_eq_bare hq hb, bareAcquire, covers, decide_eq_true hq.capacity]
  simp only [Bool.true_and, Bool.not_eq_true', decide_eq_false_iff_not]
  exact ite_not _ _ _

end Bucket

namespace Breaker

def bareFresh (t : Thresholds) (now : Instant) : Breaker :=
  { fresh t now with window := ⟨t.windowSize, [], 0, 0⟩ }

def bareAdopt (t : Thresholds) (b : Breaker) : Breaker :=
  { b with
    thresholds := t
    window := { b.window with size := t.windowSize }.dropOldestN (b.window.length - t.windowSize) }

def bareShouldTrip (b : Breaker) : Bool :=
  b.thresholds.minimumCalls ≤ b.window.length &&
    (b.thresholds.failureRate ≤ b.window.failureRate ||
     b.thresholds.slowCallRate ≤ b.window.slowRate)

end Breaker

/-- Breakers that go by these thresholds take them as they are. -/
structure Thresholds.TakenAsGiven (t : Thresholds) : Prop where
  fresh : ∀ now, Breaker.fresh t now = Breaker.bareFresh t now
  adopt : ∀ b : Breaker, b.adopt t = b.bareAdopt t
  shouldTrip : ∀ b : Breaker, b.thresholds = t → b.shouldTrip = b.bareShouldTrip

theorem Thresholds.Valid.takenAsGiven {t : Thresholds} (ht : t.Valid) : t.TakenAsGiven := by
  have hsize : max t.windowSize 1 = t.windowSize := max_eq_left ht.windowSize
  have hrequired : t.requiredSamples = t.minimumCalls := by
    rw [requiredSamples, min_eq_left ht.minimumCalls.2, max_eq_right ht.minimumCalls.1]
  refine ⟨fun now => ?_, fun b => ?_, fun b hb => ?_⟩
  · rw [Breaker.fresh, Window.ofSize, hsize]
    rfl
  · rw [Breaker.adopt, Window.resize, hsize]
    rfl
  · rw [Breaker.shouldTrip, hb, hrequired, ← hb]
    rfl

namespace Limiter

variable {l : Limiter Rat} {key : Key} {entry : LimiterEntry Rat} {q : Quota} {now : Instant}

theorem acquire_nonneg {permits : Nat}
    (he : (l.acquire key q permits now).2.2.get? key = some entry) : 0 ≤ entry.bucket.tokens := by
  rw [get?_acquire] at he
  cases he
  exact Bucket.after_nonneg q _ ⟨permits, now⟩

theorem available_nonneg (he : (l.available key q now).2.get? key = some entry) :
    0 ≤ entry.bucket.tokens := by
  unfold available at he
  cases hk : l.get? key with
  | none => simp [hk] at he
  | some old =>
    simp only [hk, Registry.get?_insert_self] at he
    cases he
    exact Bucket.refill_nonneg q now old.bucket

theorem bucketFor_nonneg (hl : ∀ entry, l.get? key = some entry → 0 ≤ entry.bucket.tokens)
    (q : Quota) (now : Instant) : 0 ≤ (l.bucketFor key q now).1.tokens := by
  unfold bucketFor
  split
  · exact Bucket.fullSize_nonneg q
  · next entry he =>
    split
    · exact Bucket.fullSize_nonneg q
    · exact hl entry he

end Limiter

/-- A guard that has taken in nothing but what is valid. -/
structure Guard.Healthy {α : Type} (g : Guard α) : Prop where
  snapshot : ∃ version c, c.violations = [] ∧ g.snapshot = .ofConfig version c
  thresholds : ∀ key b, g.breakers.breaker? key = some b → b.thresholds.Valid

namespace Guard.Healthy

variable {α : Type} {g g' : Guard α} {key : Key} {policy : Policy}

theorem ofSnapshot {version : Nat} {c : Config} (hv : c.violations = []) :
    (ofSnapshot (.ofConfig version c) : Guard α).Healthy :=
  ⟨⟨version, c, hv, rfl⟩, fun _ _ h => nomatch h⟩

theorem extract_valid (hg : g.Healthy) (method : String) (ctx : Context) :
    (g.snapshot.extract method ctx).2.Valid := by
  obtain ⟨version, c, hv, hs⟩ := hg.snapshot
  rw [hs]
  exact Snapshot.resolve_valid hv version method ctx

variable [Quantity α]

theorem acquired (hg : g.Healthy) (hp : policy.Valid) (ha : g.Acquired key policy g') {b : Breaker}
    (hb : g'.breakers.breaker? key = some b) : b.thresholds.Valid := by
  obtain ⟨reports, hi, hb'⟩ := ha.breaker
  rw [hb'] at hb
  cases ht : g.asks? key policy with
  | none =>
    rw [ht] at hb
    obtain ⟨old, hold, rfl⟩ := Option.map_eq_some_iff.1 hb
    rw [old.run_thresholds hi]
    exact hg.thresholds key old hold
  | some t =>
    have hown : policy.thresholds = some t := by
      unfold asks? at ht
      split at ht
      · exact ht
      · cases ht
    rw [ht] at hb
    cases hb
    rw [Breaker.run, Breaker.run_thresholds _ hi, Breaker.step_thresholds]
    exact hp.thresholds t hown

theorem interlude {look : Option Quota} (hg : g.Healthy) (hi : g.Interlude key look g')
    {b : Breaker} (hb : g'.breakers.breaker? key = some b) : b.thresholds.Valid := by
  obtain ⟨old, reports, hold, -, -, ht⟩ := hi.breaker b hb
  exact ht ▸ hg.thresholds key old hold

end Guard.Healthy

def Guard.Solvent (g : Guard Rat) : Prop :=
  ∀ key entry, g.limiter.get? key = some entry → 0 ≤ entry.bucket.tokens

namespace Guard.Solvent

variable {g g' : Guard Rat} {key : Key} {entry : LimiterEntry Rat}

theorem acquired {policy : Policy} (hg : g.Solvent) (ha : g.Acquired key policy g')
    (he : g'.limiter.get? key = some entry) : 0 ≤ entry.bucket.tokens := by
  rw [ha.bucket] at he
  cases hq : policy.quota with
  | none =>
    rw [hq] at he
    exact hg key entry he
  | some q =>
    rw [hq] at he
    exact Limiter.acquire_nonneg he

theorem interlude {look : Option Quota} (hg : g.Solvent) (hi : g.Interlude key look g')
    (he : g'.limiter.get? key = some entry) : 0 ≤ entry.bucket.tokens := by
  have hold := hi.bucket entry he
  cases look with
  | none => exact hg key entry hold
  | some q => exact Limiter.available_nonneg hold

end Guard.Solvent

namespace Managed

section Healthy

variable {α β ε : Type} {m : Managed α β ε} {o : Occurrence β ε}

theorem asked?_valid (hg : m.guard.Healthy) {key : Key} {policy : Policy}
    (hp : m.asked? key o = some policy) : policy.Valid := by
  cases o with
  | action a =>
    obtain ⟨⟨method, ctx⟩, -, hown⟩ := Option.bind_eq_some_iff.1 hp
    obtain ⟨-, rfl⟩ : (m.session.guard.snapshot.extract method ctx).1 = key ∧
        (m.session.guard.snapshot.extract method ctx).2 = policy := by simpa using hown
    exact hg.extract_valid method ctx
  | source | send | take => cases hp

variable [Quantity α] [CallFault ε]

theorem healthy_step (hm : m.session.Fit) (hg : m.guard.Healthy) (o : Occurrence β ε) :
    (m.step o).2.guard.Healthy := by
  obtain ⟨version, c, hv, hs⟩ := hg.snapshot
  have hsnapshot : (m.step o).2.guard.snapshot = .ofConfig _ _ :=
    (m.step_snapshot o).trans (hs ▸ Snapshot.foldl_accept version c (m.offers o))
  refine ⟨⟨_, _, Snapshot.getLastD_accepted_valid hv (m.offers o), hsnapshot⟩, fun key b hb => ?_⟩
  cases hp : m.asked? key o with
  | none => exact hg.interlude (step_interlude hm hp) hb
  | some policy => exact hg.acquired (asked?_valid hg hp) (step_acquired hp) hb

theorem healthy_run (hm : m.session.Fit) (hg : m.guard.Healthy) (os : List (Occurrence β ε)) :
    (m.run os).guard.Healthy := by
  induction os generalizing m with
  | nil => exact hg
  | cons o os ih => exact ih (fit_step hm o) (healthy_step hm hg o)

end Healthy

section Solvent

variable {β ε : Type} [CallFault ε] {m : Managed Rat β ε}

theorem solvent_step (hm : m.session.Fit) (hg : m.guard.Solvent) (o : Occurrence β ε) :
    (m.step o).2.guard.Solvent := by
  intro key entry he
  cases hp : m.asked? key o with
  | none => exact hg.interlude (step_interlude hm hp) he
  | some policy => exact hg.acquired (step_acquired hp) he

theorem solvent_run (hm : m.session.Fit) (hg : m.guard.Solvent) (os : List (Occurrence β ε)) :
    (m.run os).guard.Solvent := by
  induction os generalizing m with
  | nil => exact hg
  | cons o os ih => exact ih (fit_step hm o) (solvent_step hm hg o)

end Solvent

variable {α β ε : Type} [Quantity α] [CallFault ε]

/-- An accepted configuration gives every call a valid policy, with the quota and the thresholds of its
rule or else the default ones, as far as they are on. So does whatever is put into effect later in a run
of the guard. At any time in it all breakers take their thresholds as they are, and buckets are made and
asked as the quotas of calls say: nothing that is done about settings out of range ever makes a
difference. The floor at zero after a grant is none of these: it makes up for the slack, by which a price
may be beyond the balance, and `bareAcquire` has it too. -/
theorem settings_taken_as_given {version : Nat} {c : Config} {s : Snapshot}
    (hs : Snapshot.compile version c = .ok s) :
    (∀ method ctx, (s.resolve method ctx).Valid ∧
      ∃ r, c.Governs method ctx r ∧ c.Composes r (s.resolve method ctx)) ∧
    (∀ os : List (Occurrence β ε),
      let m : Managed α β ε := run (ofGuard (.ofSnapshot s)) os
      (∀ method ctx,
        let policy := m.guard.snapshot.resolve method ctx
        policy.Valid ∧ (∀ t, policy.thresholds = some t → t.TakenAsGiven) ∧
          ∀ q, policy.quota = some q → ∀ now, (Bucket.full q now : Bucket α) = .bareFull q now) ∧
      ∀ key b, m.guard.breakers.breaker? key = some b → b.thresholds.TakenAsGiven) ∧
    ∀ os : List (Occurrence β ε),
      let m : Managed Rat β ε := run (ofGuard (.ofSnapshot s)) os
      ∀ method ctx q, (m.guard.snapshot.resolve method ctx).quota = some q → ∀ now permits,
        let key := (m.guard.snapshot.extract method ctx).1
        let b := (m.guard.limiter.bucketFor key q now).1
        b.acquire q permits now = b.bareAcquire q permits now := by
  obtain ⟨hv, rfl⟩ := Snapshot.compile_eq_ok.1 hs
  have hhealthy (γ : Type) [Quantity γ] (os : List (Occurrence β ε)) :
      (run (ofGuard (.ofSnapshot (.ofConfig version c)) : Managed γ β ε) os).guard.Healthy :=
    healthy_run (m := ofGuard _) (Session.fit_start _) (Guard.Healthy.ofSnapshot hv) os
  refine ⟨fun method ctx => ⟨Snapshot.resolve_valid hv version method ctx,
    Snapshot.resolve_composes version c method ctx⟩, fun os => ?_, fun os => ?_⟩
  · intro m
    have hg : m.guard.Healthy := hhealthy α os
    refine ⟨fun method ctx => ?_, fun key b hb => (hg.thresholds key b hb).takenAsGiven⟩
    have hvalid : (m.guard.snapshot.resolve method ctx).Valid := hg.extract_valid method ctx
    exact ⟨hvalid, fun t ht => (hvalid.thresholds t ht).takenAsGiven, fun q hq now =>
      Bucket.full_eq_bare (hvalid.quota q hq).capacity now⟩
  · intro m method ctx q hq now permits key b
    have hg : m.guard.Healthy := hhealthy Rat os
    have hsolvent : m.guard.Solvent :=
      solvent_run (m := ofGuard _) (Session.fit_start _) (fun _ _ h => nomatch h) os
    have hquota : q.Valid := (hg.extract_valid method ctx).quota q hq
    exact Bucket.acquire_eq_bare hquota (Limiter.bucketFor_nonneg (hsolvent key) q now) permits now

/-- A rule with a quota of its own and without a breaker, until it is gone. The breaker that the call has
then, and the bucket that is left from before, go by the default settings. -/
theorem rule_gives_way_to_default :
    let rule := { Rule.ofPattern "svc/" with
      quota := some ⟨2, 1, 500⟩, disabled := [.circuitBreaker] }
    let c := { Config.standard with rules := [rule] }
    let s := Snapshot.ofConfig 1 c
    let call : Action Unit := .enter "p" "/svc/M" (.headers .empty)
    let m : Managed Rat Unit := run (ofGuard (.ofSnapshot s))
      [.action call, .action (.replace .standard), .action call]
    let policy := s.resolve "/svc/M" (.headers .empty)
    let bucket := (m.guard.limiter.bucketFor ⟨"svc/M"⟩ .standard (Span.ofSecs 1)).1
    Snapshot.compile 1 c = .ok s ∧ policy.Valid ∧ policy.quota = some ⟨2, 1, 500⟩ ∧
      policy.thresholds = none ∧ bucket.tokens = 0 ∧
      bucket.acquire .standard 1 (Span.ofSecs 1) = bucket.bareAcquire .standard 1 (Span.ofSecs 1) ∧
      ∃ b, m.guard.breakers.breaker? ⟨"svc/M"⟩ = some b ∧ b.thresholds = .standard ∧
        b.thresholds.TakenAsGiven := by
  intro rule c s call m policy bucket
  have hs : Snapshot.compile 1 c = .ok s := Snapshot.compile_eq_ok.2 ⟨by decide +kernel, rfl⟩
  obtain ⟨hpolicy, hbreakers, hbuckets⟩ :=
    settings_taken_as_given (α := Rat) (β := Unit) (ε := CallStatus) hs
  let os : List (Occurrence Unit) := [.action call, .action (.replace .standard), .action call]
  have hkey : (m.guard.snapshot.extract "/svc/M" (.headers .empty)).1 = ⟨"svc/M"⟩ := by
    decide +kernel
  have hquota : (m.guard.snapshot.resolve "/svc/M" (.headers .empty)).quota = some .standard := by
    decide +kernel
  have hbucket := hbuckets os "/svc/M" (.headers .empty) .standard hquota (Span.ofSecs 1) 1
  rw [hkey] at hbucket
  have hbreaker : (m.guard.breakers.breaker? ⟨"svc/M"⟩).map (·.thresholds) = some .standard := by
    decide +kernel
  obtain ⟨b, hb, ht⟩ := Option.map_eq_some_iff.1 hbreaker
  exact ⟨hs, (hpolicy "/svc/M" (.headers .empty)).1, by decide +kernel, by decide +kernel,
    by decide +kernel, hbucket, b, hb, ht, (hbreakers os).2 _ b hb⟩

end Managed
end Turnstile
