import Turnstile.Proofs.Breakers.Asked
import Turnstile.Proofs.Limiter
import Turnstile.Proofs.Session.Run
/-!
Admission. The limiter is asked before the breaker, each concern touches its own registry and there
its own key alone, and a call that is turned away leaves what it did not get as it was.
-/
namespace Turnstile

namespace Guard

section Tokens

variable {α : Type} [Quantity α] {g : Guard α} {key : Key} {policy : Policy}

theorem takeTokens_fst : (g.takeTokens key policy).1 = g.limiter.affords key policy g.now := by
  unfold takeTokens Limiter.affords
  cases policy.quota <;> rfl

theorem takeTokens_others {other : Key} (hne : other ≠ key) :
    (g.takeTokens key policy).2.limiter.get? other = g.limiter.get? other := by
  unfold takeTokens
  cases policy.quota with
  | none => rfl
  | some q => exact Registry.get?_insert_of_ne _ _ hne

end Tokens

theorem unpaid_takeTokens {g : Guard Rat} {key : Key} {policy : Policy}
    (hr : (g.takeTokens key policy).1 = false) :
    g.limiter.Unpaid key policy g.now (g.takeTokens key policy).2.limiter := by
  unfold takeTokens at hr ⊢
  cases hq : policy.quota with
  | none =>
    rw [hq] at hr
    cases hr
  | some q =>
    rw [hq] at hr
    have hr : ((g.limiter.bucketFor key q g.now).1.acquire q policy.tokenCost g.now).1 = false := hr
    refine ⟨q, hq, ?_⟩
    show (g.limiter.acquire key q policy.tokenCost g.now).2.2.get? key = _
    rw [Limiter.get?_acquire, Bucket.acquire_refused hr, Limiter.refill_bucketFor]

theorem paid_takeTokens {g : Guard Rat} {key : Key} {policy : Policy}
    (hg : (g.takeTokens key policy).1 = true) :
    g.limiter.Paid key policy g.now (g.takeTokens key policy).2.limiter := by
  unfold takeTokens at hg ⊢
  refine ⟨fun hq => ?_, fun q hq => ?_⟩
  · rw [hq]
  · rw [hq] at hg ⊢
    rw [← Limiter.refill_bucketFor]
    exact ⟨_, Limiter.get?_acquire _ _ _ _ _, Bucket.acquire_granted hg⟩

section Slots

variable {α : Type} {g g' : Guard α} {key : Key} {policy : Policy} {state : Circuit}
  {breaker : Option BreakerPermit} {answer : Except Circuit (Option BreakerPermit)}

theorem Slot.others (hs : Slot g key policy answer g') {other : Key} (hne : other ≠ key) :
    g'.breakers.entry? other = g.breakers.entry? other := by
  cases hs with
  | unasked => rfl
  | taken on acquired | denied on acquired => exact Breakers.acquire_others acquired hne

theorem Slot.offered (hs : Slot g key policy (.ok breaker) g') :
    g.breakers.offers key policy g.now = true := by
  unfold Breakers.offers
  cases hs with
  | unasked off => rw [off, Option.all_none]
  | taken on acquired => rw [on, Option.all_some, acquired]

theorem Slot.not_offered (hs : Slot g key policy (.error state) g') :
    g.breakers.offers key policy g.now = false := by
  unfold Breakers.offers
  cases hs with
  | denied on acquired => rw [on, Option.all_some, acquired]

theorem Slot.seated (hs : Slot g key policy (.ok breaker) g') (hl : g.breakers.Lawful) :
    g.breakers.Seated key policy g.now breaker g'.breakers := by
  cases hs with
  | unasked off => exact ⟨fun _ => ⟨rfl, rfl⟩, fun t on => (nomatch off.symm.trans on)⟩
  | taken on acquired =>
    refine ⟨fun off => (nomatch off.symm.trans on), fun t ht => ?_⟩
    cases ht.symm.trans on
    obtain ⟨hkey, hserial, b', hentry, hepoch, hflight⟩ := Breakers.acquire_admitted hl acquired
    exact ⟨_, b', rfl, hkey, hserial, hentry, hepoch, hflight⟩

theorem Slot.refused (hs : Slot g key policy (.error state) g') (hl : g.breakers.Lawful) :
    ∃ change, g.breakers.Denied key policy g.now change g'.breakers ∧
      g'.events = g.events ++ change.toList.map (.transition key) := by
  cases hs with
  | denied on acquired =>
    obtain ⟨entry, change, b', he, hn, href, he', hev⟩ := Breakers.acquire_rejected hl acquired
    refine ⟨change, ⟨_, entry, b', on, he, he', href.samples (hl.shape he) hn,
      href.inFlight_subset, href⟩, ?_⟩
    rw [events_report, hev]
    rfl

end Slots

theorem Entry.frame {α : Type} [Quantity α] {g g' : Guard α} {key : Key} {policy : Policy}
    {answer : Except Rejection Permit} (he : Entry g key policy answer g') :
    g'.now = g.now ∧ g'.snapshot = g.snapshot ∧ ∀ other, other ≠ key →
      g'.limiter.get? other = g.limiter.get? other ∧
        g'.breakers.entry? other = g.breakers.entry? other := by
  obtain ⟨hnow, hsnapshot, hbreakers, -⟩ := g.takeTokens_frame key policy
  cases he with
  | throttled short =>
    refine ⟨hnow, hsnapshot, fun other hne => ⟨takeTokens_others hne, ?_⟩⟩
    exact congrArg (fun r => r.entry? other) hbreakers
  | refused paid slot | passed paid slot =>
    obtain ⟨hnow', hsnapshot', hlimiter, -⟩ := slot.frame
    refine ⟨hnow'.trans hnow, hsnapshot'.trans hsnapshot, fun other hne => ⟨?_, ?_⟩⟩
    · exact (congrArg (·.get? other) hlimiter).trans (takeTokens_others hne)
    · exact (slot.others hne).trans (congrArg (fun r => r.entry? other) hbreakers)

/-- What a call that asks to enter may come to. If the limiter refuses, nothing is taken and the
breakers are as before; if the breaker refuses, the price has been paid and the breaker has hardly
changed; if both let it pass, it has paid its price and taken one slot. A refusal is told once, and
nothing is told or changed of another key. -/
structure Admission (g : Guard Rat) (key : Key) (policy : Policy)
    (answer : Except Rejection Permit) (after : Guard Rat) : Prop where
  throttled : g.limiter.affords key policy g.now = false →
    answer = .error (.rateLimited key) ∧ g.limiter.Unpaid key policy g.now after.limiter ∧
      after.breakers = g.breakers ∧ after.events = g.events ++ [.rejected key .rateLimited]
  refused : g.limiter.affords key policy g.now = true →
    g.breakers.offers key policy g.now = false → ∃ state change,
      answer = .error (.circuitOpen key state) ∧
        g.limiter.Paid key policy g.now after.limiter ∧
        g.breakers.Denied key policy g.now change after.breakers ∧
        after.events =
          g.events ++ change.toList.map (.transition key) ++ [.rejected key .circuitOpen]
  passed : g.limiter.affords key policy g.now = true →
    g.breakers.offers key policy g.now = true → ∃ p, ∃ changes : List Transition,
      answer = .ok p ∧ g.limiter.Paid key policy g.now after.limiter ∧
        g.breakers.Seated key policy g.now p.breaker after.breakers ∧
        after.events = g.events ++ changes.map (.transition key)
  others : after.now = g.now ∧ after.snapshot = g.snapshot ∧ ∀ other, other ≠ key →
    after.limiter.get? other = g.limiter.get? other ∧
      after.breakers.entry? other = g.breakers.entry? other

theorem Entry.admission {g g' : Guard Rat} {key : Key} {policy : Policy}
    {answer : Except Rejection Permit} (he : Entry g key policy answer g')
    (hl : g.breakers.Lawful) : Admission g key policy answer g' := by
  have hothers := he.frame
  obtain ⟨hnow, -, hbreakers, hevents⟩ := g.takeTokens_frame key policy
  have hl' : (g.takeTokens key policy).2.breakers.Lawful := hbreakers ▸ hl
  cases he with
  | throttled short =>
    have hn : g.limiter.affords key policy g.now = false := takeTokens_fst.symm.trans short
    refine ⟨fun _ => ⟨rfl, unpaid_takeTokens short, hbreakers, ?_⟩, fun hy => ?_, fun hy => ?_,
      hothers⟩
    · rw [events_refuse, hevents]
      rfl
    · rw [hn] at hy
      cases hy
    · rw [hn] at hy
      cases hy
  | refused paid slot =>
    have hy : g.limiter.affords key policy g.now = true := takeTokens_fst.symm.trans paid
    have hn := slot.not_offered
    obtain ⟨change, hdenied, hev⟩ := slot.refused hl'
    rw [hnow, hbreakers] at hn hdenied
    refine ⟨fun hn => ?_, fun _ _ => ⟨_, change, rfl, ?_, hdenied, ?_⟩, fun _ hy => ?_, hothers⟩
    · rw [hy] at hn
      cases hn
    · have hp := paid_takeTokens paid
      rwa [← slot.frame.2.2.1] at hp
    · rw [events_refuse, hev, hevents]
      rfl
    · rw [hn] at hy
      cases hy
  | passed paid slot =>
    have hy : g.limiter.affords key policy g.now = true := takeTokens_fst.symm.trans paid
    have ho := slot.offered
    have hseated := slot.seated hl'
    rw [hnow, hbreakers] at ho hseated
    obtain ⟨-, -, hlimiter, changes, hev⟩ := slot.frame
    refine ⟨fun hn => ?_, fun _ hn => ?_, fun _ _ => ⟨_, changes, rfl, ?_, hseated, ?_⟩, hothers⟩
    · rw [hy] at hn
      cases hn
    · rw [ho] at hn
      cases hn
    · have hp := paid_takeTokens paid
      rwa [← hlimiter] at hp
    · rw [hev, hevents]

end Guard

namespace Session

/-- Every call that asks to enter, in every state that a guard can get into, is answered so. -/
theorem admission_law {β ε : Type} [CallFault ε] (snapshot : Snapshot) (as : List (Action β ε))
    (method : String) (ctx : Context) :
    let g := ((ofGuard (.ofSnapshot snapshot) : Session Rat β ε).run as).guard
    let call := g.snapshot.extract method ctx
    g.Admission call.1 call.2 (g.enter method ctx).1 (g.enter method ctx).2 := by
  intro g call
  have hl : g.breakers.Lawful := (sound_run snapshot as).lawful
  exact (g.enter_spec method ctx).admission hl

end Session
end Turnstile
