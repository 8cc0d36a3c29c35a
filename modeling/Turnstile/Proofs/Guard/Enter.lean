import Turnstile.Guard.Basic
import Turnstile.Proofs.Breakers.Asked
/-!
The ways in which a guard answers a call that asks to enter, and what it reports meanwhile.
-/
namespace Turnstile

namespace Event

def rejection? : Event → Option Key
  | .rejected key _ => some key
  | _ => none

def outcome? : Event → Option Key
  | .outcome key _ => some key
  | _ => none

end Event

namespace Guard

variable {α : Type} {g : Guard α} {key : Key} {policy : Policy}

@[simp] theorem events_report (g : Guard α) (ns : List Notice) :
    (g.report ns).events = g.events ++ Notice.events ns :=
  Notice.events_append g.journal ns

theorem events_refuse (g : Guard α) (r : Rejection) :
    (g.refuse r).2.events = g.events ++ [.rejected r.key r.reason] :=
  events_report g _

inductive Slot (g : Guard α) (key : Key) (policy : Policy) :
    Except Circuit (Option BreakerPermit) → Guard α → Prop
  | unasked (off : policy.thresholds = none) : Slot g key policy (.ok none) g
  | taken {t permit notices breakers} (on : policy.thresholds = some t)
      (acquired : g.breakers.acquire key t g.now = (.admitted permit, notices, breakers)) :
      Slot g key policy (.ok (some permit)) ({ g with breakers }.report notices)
  | denied {t state denial notices breakers} (on : policy.thresholds = some t)
      (acquired : g.breakers.acquire key t g.now = (.rejected state denial, notices, breakers)) :
      Slot g key policy (.error state) ({ g with breakers }.report notices)

theorem takeSlot_spec (g : Guard α) (key : Key) (policy : Policy) :
    Slot g key policy (g.takeSlot key policy).1 (g.takeSlot key policy).2 := by
  cases ht : policy.thresholds with
  | none =>
    simp only [takeSlot, ht]
    exact .unasked ht
  | some t =>
    rcases ha : g.breakers.acquire key t g.now with ⟨admission, notices, breakers⟩
    simp only [takeSlot, ht, ha]
    cases admission with
    | admitted permit => exact .taken ht ha
    | rejected state denial => exact .denied ht ha

theorem Slot.frame {answer : Except Circuit (Option BreakerPermit)} {g' : Guard α}
    (hs : Slot g key policy answer g') :
    g'.now = g.now ∧ g'.snapshot = g.snapshot ∧ g'.limiter = g.limiter ∧
      ∃ changes : List Transition, g'.events = g.events ++ changes.map (.transition key) := by
  cases hs with
  | unasked => exact ⟨rfl, rfl, rfl, [], (List.append_nil _).symm⟩
  | taken on acquired | denied on acquired =>
    have he := congrArg (fun answer => Notice.events answer.2.1) acquired
    dsimp only at he
    rw [Breakers.acquire_events] at he
    exact ⟨rfl, rfl, rfl, _, (events_report _ _).trans (congrArg (g.events ++ ·) he.symm)⟩

variable [Quantity α]

theorem takeTokens_frame (g : Guard α) (key : Key) (policy : Policy) :
    let paid := (g.takeTokens key policy).2
    paid.now = g.now ∧ paid.snapshot = g.snapshot ∧ paid.breakers = g.breakers ∧
      paid.events = g.events := by
  unfold takeTokens
  cases policy.quota with
  | none => exact ⟨rfl, rfl, rfl, rfl⟩
  | some q =>
    refine ⟨rfl, rfl, rfl, ?_⟩
    have he : Notice.events (g.limiter.bucketFor key q g.now).2 = [] := by
      unfold Limiter.bucketFor
      split
      · rfl
      · split <;> rfl
    exact (events_report _ _).trans ((congrArg (g.events ++ ·) he).trans (List.append_nil _))

/-- What asking to enter can come to, for a call of this key and policy. -/
inductive Entry (g : Guard α) (key : Key) (policy : Policy) :
    Except Rejection Permit → Guard α → Prop
  | throttled (short : (g.takeTokens key policy).1 = false) :
      Entry g key policy (.error (.rateLimited key))
        ((g.takeTokens key policy).2.refuse (.rateLimited key)).2
  | refused {state served} (paid : (g.takeTokens key policy).1 = true)
      (denied : Slot (g.takeTokens key policy).2 key policy (.error state) served) :
      Entry g key policy (.error (.circuitOpen key state))
        (served.refuse (.circuitOpen key state)).2
  | passed {breaker served} (paid : (g.takeTokens key policy).1 = true)
      (slot : Slot (g.takeTokens key policy).2 key policy (.ok breaker) served) :
      Entry g key policy (.ok ⟨key, policy, breaker, served.now⟩) served

theorem enter_spec (g : Guard α) (method : String) (ctx : Context) :
    Entry g (g.snapshot.extract method ctx).1 (g.snapshot.extract method ctx).2
      (g.enter method ctx).1 (g.enter method ctx).2 := by
  rcases hx : g.snapshot.extract method ctx with ⟨key, policy⟩
  rcases ht : g.takeTokens key policy with ⟨granted, paid⟩
  cases granted with
  | false =>
    simp only [enter, hx, ht]
    have he : Entry g key policy (.error (.rateLimited key))
        ((g.takeTokens key policy).2.refuse (.rateLimited key)).2 := .throttled (by rw [ht])
    rwa [ht] at he
  | true =>
    have hs := paid.takeSlot_spec key policy
    rcases hslot : paid.takeSlot key policy with ⟨answer, served⟩
    rw [hslot] at hs
    cases answer with
    | error state =>
      simp only [enter, hx, ht, hslot]
      exact .refused (by rw [ht]) (by rw [ht]; exact hs)
    | ok breaker =>
      simp only [enter, hx, ht, hslot]
      exact .passed (by rw [ht]) (by rw [ht]; exact hs)

theorem entry_of_enter {method : String} {ctx : Context} {answer : Except Rejection Permit}
    {g' : Guard α} (he : g.enter method ctx = (answer, g')) :
    Entry g (g.snapshot.extract method ctx).1 (g.snapshot.extract method ctx).2 answer g' := by
  have hs := g.enter_spec method ctx
  rwa [he] at hs

def refusal : Except Rejection Permit → List Event
  | .ok _ => []
  | .error r => [.rejected r.key r.reason]

/-- Asking to enter announces changes of the key, and then the refusal if there is one. -/
theorem Entry.events {answer : Except Rejection Permit} {g' : Guard α}
    (he : Entry g key policy answer g') :
    ∃ changes : List Transition,
      g'.events = g.events ++ changes.map (.transition key) ++ refusal answer := by
  have hpaid := (g.takeTokens_frame key policy).2.2.2
  cases he with
  | throttled short =>
    refine ⟨[], ?_⟩
    rw [events_refuse, hpaid, List.map_nil, List.append_nil]
    rfl
  | refused paid denied =>
    obtain ⟨-, -, -, changes, hc⟩ := denied.frame
    refine ⟨changes, ?_⟩
    rw [events_refuse, hc, hpaid]
    rfl
  | passed paid slot =>
    obtain ⟨-, -, -, changes, hc⟩ := slot.frame
    refine ⟨changes, ?_⟩
    rw [hc, hpaid]
    exact (List.append_nil _).symm

theorem Entry.permit {p : Permit} {g' : Guard α} (he : Entry g key policy (.ok p) g') :
    p.key = key ∧ p.policy = policy ∧ p.startedAt = g'.now := by
  cases he
  exact ⟨rfl, rfl, rfl⟩

theorem Entry.rejection {r : Rejection} {g' : Guard α} (he : Entry g key policy (.error r) g') :
    r.key = key := by
  cases he <;> rfl

end Guard
end Turnstile
