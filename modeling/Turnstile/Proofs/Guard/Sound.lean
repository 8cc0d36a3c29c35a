import Turnstile.Proofs.Breakers.Booking
import Turnstile.Proofs.Breakers.Tale
import Turnstile.Proofs.Guard.Custody
/-!
Sound custody. A deed gives the breakers of a guard one input at most. So, whatever happens to a
guard, its breakers are as their histories say, and each of them is held by the permits that are out
for its key.
-/
namespace Turnstile

namespace Guard

variable {α : Type} {g g' : Guard α}

def transitions (g : Guard α) : List Event := g.events.filter Event.isTransition

theorem transitions_append {added : List Event} (he : g'.events = g.events ++ added) :
    g'.transitions = g.transitions ++ added.filter Event.isTransition := by
  rw [transitions, he, List.filter_append]
  rfl

theorem transitions_refuse (g : Guard α) (r : Rejection) :
    (g.refuse r).2.transitions = g.transitions := by
  rw [transitions_append (events_refuse g r)]
  exact List.append_nil _

theorem transitions_asked {r breakers : Breakers} {key : Key} {t : Thresholds}
    {admission : BreakerAdmission} {notices : List Notice}
    (acquired : r.acquire key t g.now = (admission, notices, breakers)) :
    ({ g with breakers }.report notices).transitions =
      g.transitions ++ r.events (.acquire key t g.now) := by
  have hev : r.events (.acquire key t g.now) = Notice.events notices := by
    rw [Breakers.events, Breakers.notices, acquired]
  have htold := transitions_append (events_report { g with breakers } notices)
  rw [← hev, Breakers.filter_events] at htold
  exact htold

end Guard

namespace Custody

variable {α : Type} {c c' : Custody α} {d : Deed}

def breakerPermits (out : Multiset Permit) : Multiset BreakerPermit := out.filterMap (·.breaker)

theorem breakerPermits_none {p : Permit} (hp : p.breaker = none) (out : Multiset Permit) :
    breakerPermits (p ::ₘ out) = breakerPermits out :=
  Multiset.filterMap_cons_none p out hp

theorem breakerPermits_some {p : Permit} {permit : BreakerPermit} (hp : p.breaker = some permit)
    (out : Multiset Permit) : breakerPermits (p ::ₘ out) = permit ::ₘ breakerPermits out :=
  Multiset.filterMap_cons_some _ p out hp

/-- What the breakers of a guard are given from one custody to the next: nothing, or one input that
is no report by ticket, and whose changes of state are told. -/
inductive Gives (c c' : Custody α) : List Breakers.Input → Prop
  | nothing (breakers : c'.guard.breakers = c.guard.breakers)
      (out : breakerPermits c'.out = breakerPermits c.out)
      (told : c'.guard.transitions = c.guard.transitions) : Gives c c' []
  | input {i} (breakers : c'.guard.breakers = c.guard.breakers.after i)
      (dealt : Breakers.Dealt c.guard.breakers (breakerPermits c.out) i (breakerPermits c'.out))
      (own : i.byTicket = false)
      (told : c'.guard.transitions = c.guard.transitions ++ c.guard.breakers.events i) :
      Gives c c' [i]

theorem gives_taken {g g' : Guard α} {p : Permit} {policy : Policy}
    (hb : g.breakers = c.guard.breakers) (he : g.transitions = c.guard.transitions)
    (hs : Guard.Slot g p.key policy (.ok p.breaker) g') :
    ∃ is, Gives c ⟨g', p ::ₘ c.out⟩ is := by
  generalize hp : p.breaker = breaker at hs
  cases hs with
  | unasked => exact ⟨_, .nothing hb (breakerPermits_none hp c.out) he⟩
  | @taken t permit notices breakers on acquired =>
    rw [hb] at acquired
    refine ⟨_, .input (i := .acquire p.key t g.now) ?_ ?_ rfl ?_⟩
    · rw [Breakers.after, acquired]
      rfl
    · exact (breakerPermits_some hp c.out).symm ▸ .admitted p.key t g.now (by rw [acquired])
    · rw [← he]
      exact Guard.transitions_asked acquired

theorem gives_denied {g g' : Guard α} {key : Key} {policy : Policy} {state : Circuit}
    (hb : g.breakers = c.guard.breakers) (he : g.transitions = c.guard.transitions)
    (hs : Guard.Slot g key policy (.error state) g') (r : Rejection) :
    ∃ is, Gives c ⟨(g'.refuse r).2, c.out⟩ is := by
  cases hs with
  | @denied t state denial notices breakers on acquired =>
    rw [hb] at acquired
    refine ⟨_, .input (i := .acquire key t g.now) ?_ ?_ rfl ?_⟩
    · rw [Breakers.after, acquired]
      rfl
    · exact .rejected key t g.now (by rw [acquired])
    · rw [← he, Guard.transitions_refuse]
      exact Guard.transitions_asked acquired

theorem gives_settled {g : Guard α} {p : Permit} {rest : Multiset Permit} (status : CallStatus) :
    ∃ is, Gives ⟨g, p ::ₘ rest⟩ ⟨(g.complete p status).2, rest⟩ is := by
  have hb := (g.complete_frame p status).2.2.2
  have htold := Guard.transitions_append
    ((g.complete_events_eq p status).trans (List.append_assoc _ _ _))
  cases hp : p.breaker with
  | none =>
    rw [hp] at hb htold
    refine ⟨_, .nothing hb (breakerPermits_none hp rest).symm ?_⟩
    exact htold.trans (List.append_nil _)
  | some permit =>
    rw [hp] at hb htold
    refine ⟨_, .input (i := .complete permit (g.complete p status).1
      (g.now.since p.startedAt) g.now) hb ?_ rfl ?_⟩
    · exact (breakerPermits_some hp rest).symm ▸ .completed _ _ _
    · rw [List.filter_append] at htold
      exact htold.trans (congrArg (g.transitions ++ ·)
        ((List.append_nil _).trans (Breakers.filter_events g.breakers (.complete permit _ _ _))))

theorem Step.gives [Quantity α] (hs : Step c d c') : ∃ is, Gives c c' is := by
  have htokens : ∀ key policy, (c.guard.takeTokens key policy).2.transitions = c.guard.transitions :=
    fun key policy => congrArg (List.filter Event.isTransition)
      (c.guard.takeTokens_frame key policy).2.2.2
  cases hs with
  | grant method ctx entered =>
    cases Guard.entry_of_enter entered with
    | passed paid slot =>
      exact gives_taken (c.guard.takeTokens_frame _ _).2.2.1 (htokens _ _) slot
  | refuse method ctx entered =>
    have hpaid := c.guard.takeTokens_frame (c.guard.snapshot.extract method ctx).1
      (c.guard.snapshot.extract method ctx).2
    cases Guard.entry_of_enter entered with
    | throttled short =>
      refine ⟨_, .nothing hpaid.2.2.1 rfl ?_⟩
      exact (Guard.transitions_refuse _ _).trans (htokens _ _)
    | refused paid denied => exact gives_denied hpaid.2.2.1 (htokens _ _) denied _
  | settle status held =>
    obtain ⟨g, out⟩ := c
    cases held
    exact gives_settled status
  | advance | install | look => exact ⟨_, .nothing rfl rfl rfl⟩
  | note notices eventless =>
    refine ⟨_, .nothing rfl rfl ?_⟩
    rw [Guard.transitions_append (Guard.events_report c.guard notices), eventless]
    exact List.append_nil _
  | sweep =>
    refine ⟨_, .input (i := .sweep c.guard.now c.guard.snapshot.config.retention) rfl
      (.swept _ _) rfl ?_⟩
    exact (congrArg (List.filter Event.isTransition) (events_sweep c.guard)).trans
      (List.append_nil _).symm

structure Sound (c : Custody α) : Prop where
  lawful : c.guard.breakers.Lawful
  pinned : Breakers.Pinned (breakerPermits c.out) c.guard.breakers
  keyed : ∀ p ∈ c.out, ∀ permit, p.breaker = some permit → permit.key = p.key

theorem sound_start (snapshot : Snapshot) : Sound (⟨.ofSnapshot snapshot, 0⟩ : Custody α) where
  lawful := ⟨[], Breakers.chronicle_empty⟩
  pinned := Breakers.pinned_empty
  keyed _ hp := absurd hp (Multiset.notMem_zero _)

theorem Gives.lawful {is : List Breakers.Input} (hg : Gives c c' is)
    (hl : c.guard.breakers.Lawful) : c'.guard.breakers.Lawful := by
  cases hg with
  | nothing breakers => exact breakers ▸ hl
  | input breakers => exact breakers ▸ hl.after _

theorem Gives.pinned {is : List Breakers.Input} (hg : Gives c c' is)
    (hp : Breakers.Pinned (breakerPermits c.out) c.guard.breakers) :
    Breakers.Pinned (breakerPermits c'.out) c'.guard.breakers := by
  cases hg with
  | nothing breakers out =>
    rw [breakers, out]
    exact hp
  | input breakers dealt =>
    rw [breakers]
    exact hp.dealt dealt

theorem keyed_of_entry [Quantity α] {g g' : Guard α} {key : Key} {policy : Policy} {p : Permit}
    (he : Guard.Entry g key policy (.ok p) g') {permit : BreakerPermit}
    (hp : p.breaker = some permit) : permit.key = p.key := by
  cases he with
  | passed paid slot =>
    cases hp
    cases slot with
    | taken on acquired => exact (Breakers.verdict_of_admitted (by rw [acquired])).1

theorem Sound.step [Quantity α] (hc : c.Sound) (hs : Step c d c') : c'.Sound := by
  obtain ⟨is, hg⟩ := hs.gives
  refine ⟨hg.lawful hc.lawful, hg.pinned hc.pinned, ?_⟩
  cases hs with
  | grant method ctx entered =>
    intro q hq permit hpermit
    obtain rfl | hq := Multiset.mem_cons.1 hq
    · exact keyed_of_entry (Guard.entry_of_enter entered) hpermit
    · exact hc.keyed q hq permit hpermit
  | settle status held =>
    intro q hq
    exact hc.keyed q (held ▸ Multiset.mem_cons_of_mem hq)
  | refuse | advance | install | note | look | sweep => exact hc.keyed

theorem Run.sound [Quantity α] {ds : List Deed} (hr : Run c ds c') (hc : c.Sound) : c'.Sound :=
  hr.keeps Sound.step hc

end Custody
end Turnstile
