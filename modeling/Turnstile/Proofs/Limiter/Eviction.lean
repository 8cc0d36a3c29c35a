import Turnstile.Session.Limiter
import Turnstile.Proofs.Bucket.Run
import Turnstile.Proofs.Registry.OneKey
/-!
Eviction of idle buckets. A bucket that has had the time to fill up is as good as a new one, so that no
answer tells whether a sweep has evicted it or kept it.
-/
namespace Turnstile

def LimiterAction.key? : LimiterAction → Option Key
  | .acquire key _ _ | .available key _ | .look key | .poison key => some key
  | .advance _ | .sweep _ => none

namespace LimiterEntry

variable {α : Type} [Quantity α]

def bucketAt (q : Quota) (now : Instant) : Option (LimiterEntry α) → Bucket α
  | some ⟨bucket, false⟩ => bucket
  | some ⟨_, true⟩ | none => .full q now

/-- The answer to an action by the entry of its key, and the entry that it sets. -/
def respond (now : Instant) (entry : Option (LimiterEntry α)) :
    LimiterAction → LimiterReply α × Option (LimiterEntry α)
  | .acquire _ q permits =>
    let (granted, bucket) := (bucketAt q now entry).acquire q permits now
    (.granted granted, some ⟨bucket, false⟩)
  | .available _ q =>
    (.tokens (entry.map fun e => (e.bucket.available q now).1),
      entry.map fun e => { e with bucket := (e.bucket.available q now).2 })
  | .look _ => (.seen entry.isSome, none)
  | .poison _ => (.poisoned entry.isSome, entry.map fun e => { e with poisoned := true })
  | .advance _ | .sweep _ => (.done, none)

theorem bucketAt_lastRefill_le {q : Quota} {now : Instant} {entry : Option (LimiterEntry α)}
    (hold : ∀ old, entry = some old → old.bucket.lastRefill ≤ now) :
    (bucketAt q now entry).lastRefill ≤ now :=
  match entry with
  | none | some ⟨_, true⟩ => Nat.le_refl now
  | some ⟨bucket, false⟩ => hold ⟨bucket, false⟩ rfl

theorem respond_lastRefill {now : Instant} {entry : Option (LimiterEntry α)} {a : LimiterAction}
    {new : LimiterEntry α} (hn : (respond now entry a).2 = some new)
    (hold : ∀ old, entry = some old → old.bucket.lastRefill ≤ now) :
    new.bucket.lastRefill = now ∨
      ∃ old, entry = some old ∧ new.bucket.lastRefill = old.bucket.lastRefill := by
  cases a with
  | acquire key q permits =>
    refine .inl ?_
    rw [← Option.some.inj hn]
    exact (Bucket.acquire_lastRefill q permits now _).trans
      (Nat.max_eq_right (bucketAt_lastRefill_le hold))
  | available key q =>
    obtain ⟨old, ho, rfl⟩ := Option.map_eq_some_iff.1 hn
    exact .inl (Nat.max_eq_right (hold old ho))
  | poison key =>
    obtain ⟨old, ho, rfl⟩ := Option.map_eq_some_iff.1 hn
    exact .inr ⟨old, ho, rfl⟩
  | look key | advance span | sweep retention => cases hn

theorem respond_acquire_congr {now : Instant} {q : Quota} {entry entry' : Option (LimiterEntry α)}
    (he : (bucketAt q now entry).refill q now = (bucketAt q now entry').refill q now)
    (key : Key) (permits : Nat) :
    respond now entry (.acquire key q permits) = respond now entry' (.acquire key q permits) := by
  simp only [respond, Bucket.acquire_eq, he]

theorem respond_nonneg {now : Instant} {entry : Option (LimiterEntry Rat)} {a : LimiterAction}
    {new : LimiterEntry Rat} (hn : (respond now entry a).2 = some new)
    (he : ∀ old, entry = some old → 0 ≤ old.bucket.tokens) : 0 ≤ new.bucket.tokens := by
  cases a with
  | acquire key q permits =>
    cases hn
    exact (Bucket.step_bounds (bucketAt q now entry) (.acquire q permits now)).1
  | available key q =>
    obtain ⟨old, -, rfl⟩ := Option.map_eq_some_iff.1 hn
    exact (Bucket.step_bounds old.bucket (.available q now)).1
  | poison key =>
    obtain ⟨old, ho, rfl⟩ := Option.map_eq_some_iff.1 hn
    exact he old ho
  | look key | advance span | sweep retention => cases hn

end LimiterEntry

namespace LimiterSession

variable {α : Type} [Quantity α]

/-- What the callers are told: the answers to the actions that are about a key. -/
def answers (s : LimiterSession α) : List LimiterAction → List (LimiterReply α)
  | [] => []
  | a :: as =>
    if a.key?.isSome then (s.step a).1 :: (s.step a).2.answers as else (s.step a).2.answers as

theorem run_append (s : LimiterSession α) (as bs : List LimiterAction) :
    s.run (as ++ bs) = (s.run as).run bs := List.foldl_append

theorem answers_append (s : LimiterSession α) (as bs : List LimiterAction) :
    s.answers (as ++ bs) = s.answers as ++ (s.run as).answers bs := by
  induction as generalizing s with
  | nil => rfl
  | cons a as ih =>
    rw [List.cons_append, answers, answers, ih]
    split <;> rfl

/-- What the callers may be told if the limiter lists its entries in any order, and in another one each
time. A map has no order of its own. -/
inductive MayAnswer : LimiterSession α → List LimiterAction → List (LimiterReply α) → Prop
  | nil (s : LimiterSession α) : MayAnswer s [] []
  | cons {s : LimiterSession α} {listed : Limiter α} {a : LimiterAction} {as : List LimiterAction}
      {replies : List (LimiterReply α)} (hl : listed.entries.Perm s.limiter.entries)
      (h : MayAnswer ({ s with limiter := listed }.step a).2 as replies) :
      MayAnswer s (a :: as)
        (if a.key?.isSome then ({ s with limiter := listed }.step a).1 :: replies else replies)

/-- The order in which the entries stand is one of them. -/
theorem mayAnswer_answers (s : LimiterSession α) (as : List LimiterAction) :
    MayAnswer s as (s.answers as) := by
  induction as generalizing s with
  | nil => exact .nil s
  | cons a as ih => exact .cons (List.Perm.refl _) (ih (s.step a).2)

theorem step_congr (s s' : LimiterSession α) (hnow : s.now = s'.now)
    (hlimiter : s.limiter = s'.limiter) (a : LimiterAction) :
    (s.step a).1 = (s'.step a).1 ∧ (s.step a).2.now = (s'.step a).2.now ∧
      (s.step a).2.limiter = (s'.step a).2.limiter := by
  obtain ⟨now, limiter, journal⟩ := s
  obtain ⟨now', limiter', journal'⟩ := s'
  obtain rfl : now = now' := hnow
  obtain rfl : limiter = limiter' := hlimiter
  cases a <;> exact ⟨rfl, rfl, rfl⟩

theorem MayAnswer.of_perm {s s' : LimiterSession α} {as : List LimiterAction}
    {replies : List (LimiterReply α)} (h : MayAnswer s as replies) (hnow : s.now = s'.now)
    (hl : s.limiter.entries.Perm s'.limiter.entries) : MayAnswer s' as replies := by
  induction h generalizing s' with
  | nil s => exact .nil s'
  | @cons s listed a as replies hlisted _ ih =>
    obtain ⟨hreply, hnow, hlimiter⟩ :=
      step_congr { s with limiter := listed } { s' with limiter := listed } hnow rfl a
    rw [hreply]
    exact .cons (hlisted.trans hl) (ih hnow (hlimiter ▸ List.Perm.refl _))

theorem bucketFor_fst (l : Limiter α) (key : Key) (q : Quota) (now : Instant) :
    (l.bucketFor key q now).1 = LimiterEntry.bucketAt q now (l.get? key) := by
  unfold Limiter.bucketFor
  match l.get? key with
  | none | some ⟨_, true⟩ | some ⟨_, false⟩ => rfl

theorem step_of_key (s : LimiterSession α) {a : LimiterAction} {key : Key}
    (hk : a.key? = some key) :
    (s.step a).1 = (LimiterEntry.respond s.now (s.limiter.get? key) a).1 ∧
      (s.step a).2.now = s.now ∧
      (s.step a).2.limiter =
        s.limiter.put key (LimiterEntry.respond s.now (s.limiter.get? key) a).2 := by
  cases a with
  | acquire k q permits =>
    obtain rfl : k = key := Option.some.inj hk
    have hb := bucketFor_fst s.limiter k q s.now
    refine ⟨?_, rfl, ?_⟩
    · exact congrArg (fun b => LimiterReply.granted (b.acquire q permits s.now).1) hb
    · exact congrArg (fun b => s.limiter.insert k ⟨(b.acquire q permits s.now).2, false⟩) hb
  | available k q =>
    obtain rfl : k = key := Option.some.inj hk
    dsimp only [step, Limiter.available, LimiterEntry.respond]
    match s.limiter.get? k with
    | none | some e => exact ⟨rfl, rfl, rfl⟩
  | look k =>
    obtain rfl : k = key := Option.some.inj hk
    exact ⟨rfl, rfl, rfl⟩
  | poison k =>
    obtain rfl : k = key := Option.some.inj hk
    dsimp only [step, Limiter.poison, LimiterEntry.respond]
    match s.limiter.get? k with
    | none | some e => exact ⟨rfl, rfl, rfl⟩
  | advance span | sweep retention => cases hk

/-- What holds of every limiter that has been reached: no bucket is in debt, and none has been asked
later than now. -/
structure Sound (s : LimiterSession Rat) : Prop where
  distinct : s.limiter.Distinct
  nonneg : ∀ e ∈ s.limiter.entries, 0 ≤ e.2.bucket.tokens
  seen : ∀ e ∈ s.limiter.entries, e.2.bucket.lastRefill ≤ s.now

theorem sound_start : (start : LimiterSession Rat).Sound where
  distinct := Registry.distinct_empty
  nonneg _ he := absurd he List.not_mem_nil
  seen _ he := absurd he List.not_mem_nil

theorem Sound.sublist {s : LimiterSession Rat} (hs : s.Sound) {l : Limiter Rat}
    (hl : l.entries.Sublist s.limiter.entries) : Sound { s with limiter := l } where
  distinct := hs.distinct.sublist (hl.map _)
  nonneg e he := hs.nonneg e (hl.subset he)
  seen e he := hs.seen e (hl.subset he)

theorem Sound.step {s : LimiterSession Rat} (hs : s.Sound) (a : LimiterAction) :
    (s.step a).2.Sound := by
  cases hk : a.key? with
  | some key =>
    obtain ⟨-, hnow, hlimiter⟩ := s.step_of_key hk
    have hold : ∀ old, s.limiter.get? key = some old → (key, old) ∈ s.limiter.entries :=
      fun old ho => Registry.mem_of_get? ho
    refine ⟨hlimiter ▸ hs.distinct.put key _, fun e he => ?_, fun e he => ?_⟩
    · rcases Registry.mem_put (hlimiter ▸ he) with he | ⟨-, hnew⟩
      · exact hs.nonneg e he
      · exact LimiterEntry.respond_nonneg hnew fun old ho => hs.nonneg _ (hold old ho)
    · rw [hnow]
      rcases Registry.mem_put (hlimiter ▸ he) with he | ⟨-, hnew⟩
      · exact hs.seen e he
      · rcases LimiterEntry.respond_lastRefill hnew fun old ho => hs.seen _ (hold old ho)
          with hlast | ⟨old, ho, hlast⟩
        · exact hlast.le
        · exact hlast.le.trans (hs.seen _ (hold old ho))
  | none =>
    cases a with
    | advance span =>
      exact ⟨hs.distinct, hs.nonneg, fun e he => Nat.le_add_right_of_le (hs.seen e he)⟩
    | sweep retention => exact hs.sublist (Registry.sweep_sublist _ _ _ _ s.limiter)
    | acquire _ _ _ | available _ _ | look _ | poison _ => cases hk

theorem Sound.run {s : LimiterSession Rat} (hs : s.Sound) (as : List LimiterAction) :
    (s.run as).Sound := by
  induction as generalizing s with
  | nil => exact hs
  | cons a as ih => exact ih (hs.step a)

/-- Two limiters that differ in that one of them may still have the bucket of a key, as the one that
has waited longest. -/
structure Spares (key : Key) (entry : LimiterEntry Rat) (gone stayed : LimiterSession Rat) :
    Prop where
  now_eq : gone.now = stayed.now
  others : stayed.limiter.without key = gone.limiter
  kept : stayed.limiter.get? key = none ∨ Registry.Oldest Limiter.tracking key entry stayed.limiter

section Spares

variable {key : Key} {entry : LimiterEntry Rat} {gone stayed : LimiterSession Rat}

theorem Spares.sweep (h : Spares key entry gone stayed) (hs : stayed.Sound)
    (retention : Retention) :
    Spares key entry (gone.step (.sweep retention)).2 (stayed.step (.sweep retention)).2 where
  now_eq := h.now_eq
  others := by
    change (stayed.limiter.sweep stayed.now retention).1.without key =
      (gone.limiter.sweep gone.now retention).1
    rw [h.now_eq]
    rcases h.kept with hnone | ho
    · have hsame : stayed.limiter = gone.limiter :=
        (Registry.without_eq_self hnone).symm.trans h.others
      rw [← hsame]
      exact Registry.without_eq_self (Registry.get?_sweep_eq_none hnone)
    · rw [← h.others]
      exact ho.sweep_without (fun _ => rfl) hs.distinct
  kept := by
    rcases h.kept with hnone | ho
    · exact .inl (Registry.get?_sweep_eq_none hnone)
    · exact ho.sweep hs.distinct

/-- The other keys are answered alike, and what is done to them does not bring the two together. -/
theorem Spares.step (h : Spares key entry gone stayed) (hs : stayed.Sound) {a : LimiterAction}
    (ha : a.key? ≠ some key) :
    (a.key?.isSome → (gone.step a).1 = (stayed.step a).1) ∧
      Spares key entry (gone.step a).2 (stayed.step a).2 := by
  cases hk : a.key? with
  | some other =>
    have hne : other ≠ key := fun he => ha (hk.trans (congrArg some he))
    have hget : gone.limiter.get? other = stayed.limiter.get? other :=
      h.others ▸ Registry.get?_without_of_ne stayed.limiter hne
    obtain ⟨hreply, hnow, hlimiter⟩ := gone.step_of_key hk
    obtain ⟨hreply', hnow', hlimiter'⟩ := stayed.step_of_key hk
    rw [h.now_eq, hget] at hreply hlimiter
    have hnow : (gone.step a).2.now = (stayed.step a).2.now :=
      hnow.trans (h.now_eq.trans hnow'.symm)
    have hothers : (stayed.step a).2.limiter.without key = (gone.step a).2.limiter := by
      rw [hlimiter, hlimiter', Registry.without_put_of_ne _ _ _ hne, h.others]
    refine ⟨fun _ => hreply.trans hreply'.symm, hnow, hothers, ?_⟩
    rw [hlimiter', Registry.get?_put_of_ne _ _ _ hne.symm]
    refine h.kept.imp_right fun ho => ho.put hne fun new hnew => ?_
    have hold : ∀ old, stayed.limiter.get? other = some old →
        (other, old) ∈ stayed.limiter.entries := fun old ho => Registry.mem_of_get? ho
    have hwaits : entry.bucket.lastRefill ≤ stayed.now :=
      hs.seen _ (Registry.mem_of_get? (ho.get? hs.distinct))
    -- What is set was used just now or as it was before: either way not before the waiting entry.
    rcases LimiterEntry.respond_lastRefill hnew fun old ho => hs.seen _ (hold old ho)
      with hlast | ⟨old, hg, hlast⟩
    · exact ⟨hwaits.trans_eq hlast.symm, fun e he _ => (hs.seen e he).trans_eq hlast.symm⟩
    · refine ⟨(ho.le (hold old hg)).trans_eq hlast.symm, fun e he hke => ?_⟩
      have heq : e = (other, old) := hs.distinct.eq_of_mem he (hold old hg) hke
      rw [heq]
      exact hlast.ge
  | none =>
    refine ⟨fun hsome => Bool.noConfusion hsome, ?_⟩
    cases a with
    | advance span => exact ⟨congrArg (· + span) h.now_eq, h.others, h.kept⟩
    | sweep retention => exact h.sweep hs retention
    | acquire _ _ _ | available _ _ | look _ | poison _ => cases hk

theorem Spares.run (h : Spares key entry gone stayed) (hs : stayed.Sound)
    {as : List LimiterAction} (has : ∀ a ∈ as, a.key? ≠ some key) :
    gone.answers as = stayed.answers as ∧ Spares key entry (gone.run as) (stayed.run as) := by
  induction as generalizing gone stayed with
  | nil => exact ⟨rfl, h⟩
  | cons a as ih =>
    obtain ⟨ha, has⟩ := List.forall_mem_cons.1 has
    obtain ⟨hreply, hnext⟩ := h.step hs ha
    obtain ⟨hanswers, hlast⟩ := ih hnext (hs.step a) has
    refine ⟨?_, hlast⟩
    unfold answers
    rw [hanswers]
    split
    · next hk => rw [hreply hk]
    · rfl

end Spares

/-- Limiters with the same entries, of which that of one key may stand in another place. -/
structure Agrees (key : Key) (s s' : LimiterSession Rat) : Prop where
  now_eq : s.now = s'.now
  others : s.limiter.without key = s'.limiter.without key
  own : s.limiter.get? key = s'.limiter.get? key

section Agrees

variable {key : Key} {s s' : LimiterSession Rat}

theorem Agrees.get? (h : Agrees key s s') (other : Key) :
    s.limiter.get? other = s'.limiter.get? other := by
  by_cases hk : other = key
  · exact hk ▸ h.own
  · rw [← Registry.get?_without_of_ne s.limiter hk, h.others, Registry.get?_without_of_ne _ hk]

theorem Agrees.step_of_key (h : Agrees key s s') {a : LimiterAction} {other : Key}
    (hk : a.key? = some other) :
    (s.step a).1 = (s'.step a).1 ∧ Agrees key (s.step a).2 (s'.step a).2 := by
  obtain ⟨hreply, hnow, hlimiter⟩ := s.step_of_key hk
  obtain ⟨hreply', hnow', hlimiter'⟩ := s'.step_of_key hk
  rw [h.now_eq, h.get? other] at hreply hlimiter
  have hnow : (s.step a).2.now = (s'.step a).2.now := hnow.trans (h.now_eq.trans hnow'.symm)
  refine ⟨hreply.trans hreply'.symm, hnow, ?_, ?_⟩
  · rw [hlimiter, hlimiter']
    by_cases he : other = key
    · rw [he, Registry.without_put_self, Registry.without_put_self, h.others]
    · rw [Registry.without_put_of_ne _ _ _ he, Registry.without_put_of_ne _ _ _ he, h.others]
  · rw [hlimiter, hlimiter']
    by_cases he : other = key
    · rw [he, Registry.get?_put_self, Registry.get?_put_self, h.own]
    · rw [Registry.get?_put_of_ne _ _ _ (Ne.symm he), Registry.get?_put_of_ne _ _ _ (Ne.symm he),
        h.own]

/-- A sweep that has to make room finds no other key that was used last at the same instant as this
one. A map has no order, so that of two such keys either may go. -/
def UntiedStep (key : Key) (s : LimiterSession Rat) : LimiterAction → Prop
  | .sweep retention =>
    Registry.Untied Limiter.tracking s.now retention.idleEviction retention.maxKeys key s.limiter
  | .acquire .. | .available .. | .look _ | .poison _ | .advance _ => True

instance (key : Key) (s : LimiterSession Rat) (a : LimiterAction) :
    Decidable (UntiedStep key s a) :=
  match a with
  | .sweep _ => inferInstanceAs (Decidable (Registry.Untied ..))
  | .acquire .. | .available .. | .look _ | .poison _ | .advance _ =>
    inferInstanceAs (Decidable True)

def Untied (key : Key) (s : LimiterSession Rat) : List LimiterAction → Prop
  | [] => True
  | a :: as => UntiedStep key s a ∧ Untied key (s.step a).2 as

def decidableUntied (key : Key) (s : LimiterSession Rat) :
    (as : List LimiterAction) → Decidable (Untied key s as)
  | [] => inferInstanceAs (Decidable True)
  | a :: as =>
    have := decidableUntied key (s.step a).2 as
    inferInstanceAs (Decidable (_ ∧ _))

instance (key : Key) (s : LimiterSession Rat) (as : List LimiterAction) :
    Decidable (Untied key s as) :=
  decidableUntied key s as

theorem Agrees.step (h : Agrees key s s') (hs : s.Sound) (hs' : s'.Sound) {a : LimiterAction}
    (hu : UntiedStep key s a) :
    (a.key?.isSome → (s.step a).1 = (s'.step a).1) ∧ Agrees key (s.step a).2 (s'.step a).2 := by
  cases hk : a.key? with
  | some other => exact (h.step_of_key hk).imp_left fun hreply _ => hreply
  | none =>
    refine ⟨fun hsome => Bool.noConfusion hsome, ?_⟩
    cases a with
    | advance span => exact ⟨congrArg (· + span) h.now_eq, h.others, h.own⟩
    | sweep retention =>
      obtain ⟨hothers, hown⟩ := Registry.sweep_agree (fun _ => rfl) hs.distinct hs'.distinct
        h.others h.own hu
      obtain ⟨now, l, journal⟩ := s
      obtain ⟨now', l', journal'⟩ := s'
      obtain rfl : now = now' := h.now_eq
      exact ⟨rfl, hothers, hown⟩
    | acquire _ _ _ | available _ _ | look _ | poison _ => cases hk

theorem Agrees.answers (h : Agrees key s s') (hs : s.Sound) (hs' : s'.Sound)
    {as : List LimiterAction} (hu : Untied key s as) : s.answers as = s'.answers as := by
  induction as generalizing s s' with
  | nil => rfl
  | cons a as ih =>
    obtain ⟨hreply, hnext⟩ := h.step hs hs' hu.1
    unfold LimiterSession.answers
    rw [ih hnext (hs.step a) (hs'.step a) hu.2]
    split
    · next hk => rw [hreply hk]
    · rfl

end Agrees

section Acquire

variable {q : Quota} {entry : LimiterEntry Rat} {now : Instant}

/-- A bucket that has had the time to fill up is refilled to what a new one is. -/
theorem refill_of_idle (hc : 0 < q.capacity) (hr : 0 < q.refillTokens)
    (hi : 0 < q.refillIntervalMs) {b : Bucket Rat} (hb : 0 ≤ b.tokens)
    (hidle : (b.lastRefill : Rat) + q.capacity * q.refillInterval / q.refillTokens ≤ now) :
    b.refill q now = (Bucket.full q now).refill q now := by
  have hinterval : (0 : Rat) < q.refillInterval := by
    exact_mod_cast Nat.mul_pos hi (by decide)
  have htokens : (0 : Rat) < q.refillTokens := by exact_mod_cast hr
  have hcap : (0 : Rat) < q.capacity := by exact_mod_cast hc
  have hwait : (0 : Rat) ≤ q.capacity * q.refillInterval / q.refillTokens :=
    div_nonneg (mul_nonneg hcap.le hinterval.le) htokens.le
  have hseen : b.lastRefill ≤ now := by exact_mod_cast (le_add_of_nonneg_right hwait).trans hidle
  have hspan : ((now.since b.lastRefill : Nat) : Rat) = now - b.lastRefill := Nat.cast_sub hseen
  have hyield : (q.capacity : Rat) ≤ q.yield (now.since b.lastRefill) := by
    rw [Quota.yield, max_eq_left hr.le, hspan, le_div_iff₀ hinterval, mul_comm _ (_ - _),
      ← div_le_iff₀ htokens]
    exact le_sub_iff_add_le'.2 hidle
  refine Bucket.ext ?_ ?_
  · have hfull : (Bucket.fullSize q : Rat) ≤ b.tokens + q.yield (now.since b.lastRefill) := by
      rw [Bucket.fullSize_of_pos hc]
      exact hyield.trans (le_add_of_nonneg_left hb)
    rw [Bucket.refill_full, Bucket.refill_tokens, min_eq_left hfull,
      max_eq_right (Bucket.fullSize_nonneg q)]
  · exact (max_eq_right hseen).trans (max_self now).symm

theorem Spares.acquire {key : Key} {gone stayed : LimiterSession Rat}
    (h : Spares key entry gone stayed) (hs : stayed.Sound) (permits : Nat)
    (hc : 0 < q.capacity) (hr : 0 < q.refillTokens) (hi : 0 < q.refillIntervalMs)
    (hidle : (entry.bucket.lastRefill : Rat) + q.capacity * q.refillInterval / q.refillTokens ≤
      gone.now) :
    (gone.step (.acquire key q permits)).1 = (stayed.step (.acquire key q permits)).1 ∧
      Agrees key (gone.step (.acquire key q permits)).2
        (stayed.step (.acquire key q permits)).2 := by
  have habsent : gone.limiter.get? key = none :=
    h.others ▸ Registry.get?_without_self stayed.limiter key
  have hnew : (LimiterEntry.bucketAt q stayed.now none).refill q stayed.now =
      (LimiterEntry.bucketAt q stayed.now (stayed.limiter.get? key)).refill q stayed.now := by
    rcases h.kept with hnone | ho
    · rw [hnone]
    · rw [ho.get? hs.distinct]
      have hb : 0 ≤ entry.bucket.tokens :=
        hs.nonneg _ (Registry.mem_of_get? (ho.get? hs.distinct))
      match entry with
      | ⟨bucket, true⟩ => rfl
      | ⟨bucket, false⟩ => exact (refill_of_idle hc hr hi hb (h.now_eq ▸ hidle)).symm
  have hsame : LimiterEntry.respond gone.now (gone.limiter.get? key) (.acquire key q permits) =
      LimiterEntry.respond stayed.now (stayed.limiter.get? key) (.acquire key q permits) := by
    rw [habsent, h.now_eq]
    exact LimiterEntry.respond_acquire_congr hnew key permits
  obtain ⟨hreply, hnow, hlimiter⟩ := gone.step_of_key (a := .acquire key q permits) rfl
  obtain ⟨hreply', hnow', hlimiter'⟩ := stayed.step_of_key (a := .acquire key q permits) rfl
  obtain ⟨new, hset⟩ : ∃ new, (LimiterEntry.respond stayed.now (stayed.limiter.get? key)
      (.acquire key q permits)).2 = some new := ⟨_, rfl⟩
  rw [hsame] at hreply hlimiter
  refine ⟨hreply.trans hreply'.symm, hnow.trans (h.now_eq.trans hnow'.symm), ?_, ?_⟩
  · rw [hlimiter, hlimiter', Registry.without_put_self, Registry.without_put_self, h.others]
    exact Registry.without_eq_self habsent
  · rw [hlimiter, hlimiter', hset, Registry.get?_put_self, Registry.get?_put_self]
    rfl

end Acquire

/-- A key is asked for after the time in which its whole quota comes back. What has been said by then, to
any caller about any key, and what may be said from then on does not depend on whether a sweep has
evicted the key in between or passed over it: once it has been asked for, the limiter is the same. Only
the order of the entries may differ, which decides between keys used last at one instant. -/
theorem eviction_goes_unnoticed (before mid : List LimiterAction) (retention : Retention)
    (key : Key) (q : Quota) (permits : Nat) (entry : LimiterEntry Rat) (hc : 0 < q.capacity)
    (hr : 0 < q.refillTokens) (hi : 0 < q.refillIntervalMs) :
    let s := (start : LimiterSession Rat).run before
    let gone := (s.step (.sweep retention)).2
    let stayed := { s with
      limiter := Registry.sweepSparing Limiter.tracking s.now retention.idleEviction
        retention.maxKeys key s.limiter }
    let visit := mid ++ [.acquire key q permits]
    s.limiter.get? key = some entry → gone.limiter.get? key = none →
      (∀ a ∈ mid, a.key? ≠ some key) →
      (entry.bucket.lastRefill : Rat) + q.capacity * q.refillInterval / q.refillTokens ≤
        (gone.run mid).now →
      gone.answers visit = stayed.answers visit ∧
        (gone.run visit).now = (stayed.run visit).now ∧
        (gone.run visit).limiter.entries.Perm (stayed.run visit).limiter.entries ∧
        (∀ rest replies,
          MayAnswer (gone.run visit) rest replies ↔ MayAnswer (stayed.run visit) rest replies) ∧
        ∀ rest, Untied key (gone.run visit) rest →
          gone.answers (visit ++ rest) = stayed.answers (visit ++ rest) := by
  intro s gone stayed visit hg hgone hmid hidle
  have hs : s.Sound := sound_start.run before
  have hstayed : stayed.Sound := hs.sublist List.filter_sublist
  have hspares : Spares key entry gone stayed := {
    now_eq := rfl
    others := hs.distinct.sweepSparing_without hgone
    kept := .inr (hs.distinct.oldest_of_evicted (fun _ => rfl) hg hgone) }
  obtain ⟨hanswers, hlate⟩ := hspares.run hstayed hmid
  obtain ⟨hreply, hagree⟩ := hlate.acquire (hstayed.run mid) permits hc hr hi hidle
  have hvisit : gone.answers visit = stayed.answers visit := by
    rw [answers_append, answers_append, hanswers]
    exact congrArg (fun reply => stayed.answers mid ++ [reply]) hreply
  have hagree : Agrees key (gone.run visit) (stayed.run visit) := by
    rw [run_append, run_append]
    exact hagree
  have hsound : (gone.run visit).Sound := (hs.step (.sweep retention)).run visit
  have hsound' : (stayed.run visit).Sound := hstayed.run visit
  have hperm : (gone.run visit).limiter.entries.Perm (stayed.run visit).limiter.entries :=
    hsound.distinct.perm_of_agree hsound'.distinct hagree.others hagree.own
  refine ⟨hvisit, hagree.now_eq, hperm, fun rest replies => ⟨fun h => ?_, fun h => ?_⟩,
    fun rest hu => ?_⟩
  · exact h.of_perm hagree.now_eq hperm
  · exact h.of_perm hagree.now_eq.symm hperm.symm
  · rw [answers_append gone visit, answers_append stayed visit, hvisit,
      hagree.answers hsound hsound' hu]

/-- A bucket of two tokens is emptied, and evicted after five seconds. Its key comes back, and is evicted
for room. -/
theorem emptied_bucket_unmissed :
    let q : Quota := ⟨2, 1, 1000⟩
    let before := [LimiterAction.acquire ⟨"a"⟩ q 2, .advance (Span.ofSecs 5), .acquire ⟨"b"⟩ q 1]
    let retention : Retention := ⟨5, 60, 10⟩
    let mid := [LimiterAction.acquire ⟨"b"⟩ q 1]
    let rest := [LimiterAction.available ⟨"a"⟩ q, .advance (Span.ofSecs 1), .acquire ⟨"b"⟩ q 1,
      .sweep ⟨5, 60, 1⟩, .look ⟨"a"⟩]
    let s := (start : LimiterSession Rat).run before
    let gone := (s.step (.sweep retention)).2
    let stayed := { s with
      limiter := Registry.sweepSparing Limiter.tracking s.now retention.idleEviction
        retention.maxKeys ⟨"a"⟩ s.limiter }
    let visit := mid ++ [.acquire ⟨"a"⟩ q 2]
    gone.limiter.get? ⟨"a"⟩ = none ∧ (stayed.limiter.get? ⟨"a"⟩).isSome ∧
      gone.answers (visit ++ rest) = stayed.answers (visit ++ rest) := by
  intro q before retention mid rest s gone stayed visit
  have hlast : (s.limiter.get? ⟨"a"⟩).map (·.bucket.lastRefill) = some 0 := by decide +kernel
  obtain ⟨entry, hg, hentry⟩ := Option.map_eq_some_iff.1 hlast
  have hgone : gone.limiter.get? ⟨"a"⟩ = none := Option.isNone_iff_eq_none.1 (by decide +kernel)
  have hidle : (entry.bucket.lastRefill : Rat) + q.capacity * q.refillInterval / q.refillTokens ≤
      (gone.run mid).now := by
    rw [hentry]
    decide +kernel
  have huntied : Untied ⟨"a"⟩ (gone.run visit) rest := by decide +kernel
  have key := eviction_goes_unnoticed before mid retention ⟨"a"⟩ q 2 entry (by decide) (by decide)
    (by decide) hg hgone (by decide) hidle
  exact ⟨hgone, by decide +kernel, key.2.2.2.2 rest huntied⟩

end LimiterSession

end Turnstile
