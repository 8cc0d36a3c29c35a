import Turnstile.Proofs.Guard.Facet
import Turnstile.Proofs.Session.Admission
/-!
A call that asks to enter two guards which are the same to its key has the same answer from both, and
they are still the same to the key afterwards; to any other key it makes no difference.
-/
namespace Turnstile.Guard

variable {α : Type} {g g' : Guard α} {key other : Key} {p p' : Permit} {policy : Policy}
  {method : String} {ctx : Context}

theorem Slot.stay {answer : Except Circuit (Option BreakerPermit)}
    (hs : Slot g key policy answer g') : g.breakers.Stay g'.breakers := by
  cases hs with
  | unasked => exact .refl _
  | @taken t _ _ _ _ acquired | @denied t _ _ _ _ _ acquired =>
    have hs := Breakers.stay_after (r := g.breakers) (i := .acquire key t g.now)
      fun _ _ hi => nomatch hi
    rwa [Breakers.after, acquired] at hs

theorem Slot.gave {slot : Option BreakerPermit} (hs : Slot g key policy (.ok slot) g') :
    g'.breakers.Gave key slot := by
  cases hs with
  | unasked => exact fun _ hp => nomatch hp
  | taken on acquired => exact Breakers.gave_of_acquire acquired

theorem takeSlot_congr (hf : g.facet key = g'.facet key) (hn : g.now = g'.now)
    (policy : Policy) :
    (g.takeSlot key policy).1.map (·.map (·.unnumbered)) =
        (g'.takeSlot key policy).1.map (·.map (·.unnumbered)) ∧
      (g.takeSlot key policy).2.facet key = (g'.takeSlot key policy).2.facet key := by
  cases ht : policy.thresholds with
  | none => simp [takeSlot, ht, hf]
  | some t =>
    obtain ⟨hanswer, hnotices, hface⟩ := Breakers.acquire_congr (circuit_eq hf) t g.now
    simp only [takeSlot, ht, ← hn]
    generalize g.breakers.acquire key t g.now = asked at hanswer hnotices hface ⊢
    generalize g'.breakers.acquire key t g.now = asked' at hanswer hnotices hface ⊢
    obtain ⟨answer, notices, r⟩ := asked
    obtain ⟨answer', notices', r'⟩ := asked'
    obtain rfl : notices = notices' := hnotices
    have hasked : ({ g with breakers := r } : Guard α).facet key =
        ({ g' with breakers := r' } : Guard α).facet key := by
      have hsnapshot := snapshot_eq hf
      have hbucket := bucket_eq hf
      have hevents := keyEvents_eq hf
      exact facet_congr hsnapshot hbucket hface hevents
    have hfacet := report_congr hasked notices
    cases answer <;> cases answer' <;>
      simp_all [BreakerAdmission.unnumbered, Except.map]

variable [Quantity α]

theorem Entry.stay {answer : Except Rejection Permit} (he : Entry g key policy answer g') :
    g.breakers.Stay g'.breakers := by
  have hpaid := (g.takeTokens_frame key policy).2.2.1
  cases he with
  | throttled =>
    intro key entry he
    exact ⟨entry, hpaid ▸ he, rfl⟩
  | refused _ slot | passed _ slot => exact hpaid ▸ slot.stay

theorem Entry.facet {answer : Except Rejection Permit} (he : Entry g key policy answer g')
    (hne : key ≠ other) : g'.facet other = g.facet other := by
  obtain ⟨-, hsnapshot, hothers⟩ := he.frame
  obtain ⟨hbucket, hentry⟩ := hothers other hne.symm
  obtain ⟨changes, hevents⟩ := he.events
  refine facet_congr hsnapshot hbucket ?_ ?_
  · simp [Breakers.face?, hentry]
  · have hr : ∀ r, answer = .error r → r.key = key := fun r ha => (ha ▸ he).rejection
    cases answer with
    | ok p => simp [hevents, refusal, List.filter_map, Function.comp_def, Event.key, hne]
    | error r => simp [hevents, refusal, List.filter_map, Function.comp_def, Event.key, hne, hr r]

theorem takeTokens_congr (hf : g.facet key = g'.facet key) (hn : g.now = g'.now)
    (policy : Policy) :
    (g.takeTokens key policy).1 = (g'.takeTokens key policy).1 ∧
      (g.takeTokens key policy).2.facet key = (g'.takeTokens key policy).2.facet key := by
  obtain ⟨-, hsnapshot, hbreakers, hevents⟩ := g.takeTokens_frame key policy
  obtain ⟨-, hsnapshot', hbreakers', hevents'⟩ := g'.takeTokens_frame key policy
  have hbucket : ∀ q now, g.limiter.bucketFor key q now = g'.limiter.bucketFor key q now := by
    simp [Limiter.bucketFor, bucket_eq hf]
  refine ⟨?_, facet_congr ?_ ?_ ?_ ?_⟩
  · cases hq : policy.quota <;> simp [takeTokens, hq, Limiter.acquire, hbucket, hn]
  · rw [hsnapshot, hsnapshot', snapshot_eq hf]
  · cases hq : policy.quota with
    | none => simp [takeTokens, hq, bucket_eq hf]
    | some q =>
      have hget : ∀ g : Guard α, (g.takeTokens key policy).2.limiter =
          (g.limiter.acquire key q policy.tokenCost g.now).2.2 := by
        simp [takeTokens, hq, report]
      simp [hget, Limiter.get?_acquire, hbucket, hn]
  · rw [hbreakers, hbreakers', circuit_eq hf]
  · rw [hevents, hevents', keyEvents_eq hf]

theorem enter_congr (hf : g.facet key = g'.facet key) (hn : g.now = g'.now)
    (hkey : (g.snapshot.extract method ctx).1 = key) :
    (g.enter method ctx).1.map (·.unnumbered) = (g'.enter method ctx).1.map (·.unnumbered) ∧
      (g.enter method ctx).2.facet key = (g'.enter method ctx).2.facet key := by
  obtain ⟨policy, hx⟩ : ∃ policy, g.snapshot.extract method ctx = (key, policy) := ⟨_, by rw [← hkey]⟩
  have hx' : g'.snapshot.extract method ctx = (key, policy) := snapshot_eq hf ▸ hx
  obtain ⟨hgranted, hpaid⟩ := takeTokens_congr hf hn policy
  have hclock : ∀ g : Guard α, (g.takeTokens key policy).2.now = g.now :=
    fun g => (g.takeTokens_frame key policy).1
  have hthen : (g.takeTokens key policy).2.now = (g'.takeTokens key policy).2.now := by
    rw [hclock, hclock, hn]
  simp only [enter, hx, hx']
  generalize g.takeTokens key policy = tokens at hgranted hpaid hthen ⊢
  generalize g'.takeTokens key policy = tokens' at hgranted hpaid hthen ⊢
  obtain ⟨granted, paid⟩ := tokens
  obtain ⟨granted', paid'⟩ := tokens'
  obtain rfl : granted = granted' := hgranted
  cases granted with
  | false => exact ⟨rfl, report_congr hpaid _⟩
  | true =>
    obtain ⟨hanswer, hserved⟩ := takeSlot_congr hpaid hthen policy
    have hclock := (paid.takeSlot_spec key policy).frame.1
    have hclock' := (paid'.takeSlot_spec key policy).frame.1
    dsimp only
    generalize paid.takeSlot key policy = slot at hanswer hserved hclock ⊢
    generalize paid'.takeSlot key policy = slot' at hanswer hserved hclock' ⊢
    obtain ⟨answer, served⟩ := slot
    obtain ⟨answer', served'⟩ := slot'
    cases answer with
    | error state =>
      cases answer' with
      | error state' =>
        obtain rfl : state = state' := by simpa [Except.map] using hanswer
        exact ⟨rfl, report_congr hserved _⟩
      | ok => simp [Except.map] at hanswer
    | ok breaker =>
      cases answer' with
      | error => simp [Except.map] at hanswer
      | ok breaker' =>
        have hbreaker : breaker.map (·.unnumbered) = breaker'.map (·.unnumbered) := by
          simpa [Except.map] using hanswer
        refine ⟨?_, hserved⟩
        simp_all [Except.map, Permit.unnumbered]

/-- The answers that two guards give to a call of a key, if they are the same to the key. -/
inductive Twins (g g' : Guard α) (key : Key) :
    Except Rejection Permit × Guard α → Except Rejection Permit × Guard α → Prop
  | refused {r : Rejection} {h h' : Guard α} (own : r.key = key)
      (facet : h.facet key = h'.facet key) (clock : h.now = h'.now)
      (stay : g.breakers.Stay h.breakers) (stay' : g'.breakers.Stay h'.breakers) :
      Twins g g' key (.error r, h) (.error r, h')
  | admitted {p p' : Permit} {h h' : Guard α} (own : p.key = key)
      (same : p.unnumbered = p'.unnumbered) (facet : h.facet key = h'.facet key)
      (clock : h.now = h'.now) (knows : h.Knows p) (knows' : h'.Knows p')
      (stay : g.breakers.Stay h.breakers) (stay' : g'.breakers.Stay h'.breakers) :
      Twins g g' key (.ok p, h) (.ok p', h')

theorem Entry.knows (he : Entry g key policy (.ok p) g') : g'.Knows p := by
  cases he with
  | passed paid slot => exact slot.gave

theorem enter_twins (hf : g.facet key = g'.facet key) (hn : g.now = g'.now)
    (hkey : (g.snapshot.extract method ctx).1 = key) :
    Twins g g' key (g.enter method ctx) (g'.enter method ctx) := by
  obtain ⟨hanswer, hafter⟩ := enter_congr hf hn hkey
  have he := g.enter_spec method ctx
  have he' := g'.enter_spec method ctx
  rw [hkey] at he
  have hclock : (g.enter method ctx).2.now = (g'.enter method ctx).2.now := by
    rw [he.frame.1, he'.frame.1, hn]
  generalize g.enter method ctx = asked at hanswer hafter he hclock ⊢
  generalize g'.enter method ctx = asked' at hanswer hafter he' hclock ⊢
  obtain ⟨answer, h⟩ := asked
  obtain ⟨answer', h'⟩ := asked'
  cases answer with
  | error r =>
    cases answer' with
    | ok => simp [Except.map] at hanswer
    | error r' =>
      obtain rfl : r = r' := by simpa [Except.map] using hanswer
      exact .refused he.rejection hafter hclock he.stay he'.stay
  | ok p =>
    cases answer' with
    | error => simp [Except.map] at hanswer
    | ok p' =>
      have hsame : p.unnumbered = p'.unnumbered := by simpa [Except.map] using hanswer
      exact .admitted he.permit.1 hsame hafter hclock he.knows he'.knows he.stay he'.stay

end Turnstile.Guard
