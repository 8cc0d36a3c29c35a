import Turnstile.Proofs.Breaker.Slots
import Turnstile.Proofs.Breakers.Lending
/-!
Booking. As long as outcomes are reported with permits alone, each breaker of a registry waits for
the tickets of the permits that are out for its key, as far as they are of the epoch it is in.
-/
namespace Turnstile.Breakers

def ticketsOf (key : Key) (out : Multiset BreakerPermit) : Multiset Ticket :=
  (out.filter (·.key = key)).map (·.ticket)

def Input.byTicket : Input → Bool
  | .record .. => true
  | _ => false

/-- The callers of each breaker hold the tickets of the permits that are out for its key. -/
def Booked (out : Multiset BreakerPermit) (r : Breakers) : Prop :=
  ∀ key entry, r.entry? key = some entry → entry.breaker.Holds (ticketsOf key out)

variable {r : Breakers} {out out' : Multiset BreakerPermit} {i : Input} {is : List Input}
  {j : Breaker.Input} {key : Key} {permit : BreakerPermit} {entry : BreakerEntry}

theorem ticketsOf_cons_self (permit : BreakerPermit) (out : Multiset BreakerPermit) :
    ticketsOf permit.key (permit ::ₘ out) = permit.ticket ::ₘ ticketsOf permit.key out := by
  have hown : (permit ::ₘ out).filter (·.key = permit.key) =
      permit ::ₘ out.filter (·.key = permit.key) := Multiset.filter_cons_of_pos out rfl
  rw [ticketsOf, hown, Multiset.map_cons]
  rfl

theorem ticketsOf_cons_of_ne (out : Multiset BreakerPermit) (hne : key ≠ permit.key) :
    ticketsOf key (permit ::ₘ out) = ticketsOf key out := by
  rw [ticketsOf, Multiset.filter_cons_of_neg out hne.symm]
  rfl

theorem mem_ticketsOf (hm : permit ∈ out) : permit.ticket ∈ ticketsOf permit.key out :=
  Multiset.mem_map_of_mem _ (Multiset.mem_filter.2 ⟨hm, rfl⟩)

theorem Booked.asked (hb : Booked out r) (hp : Pinned out r) (key : Key) (t : Thresholds)
    (now : Instant) : (r.entryFor key t now).1.breaker.Holds (ticketsOf key out) := by
  cases he : r.entry? key with
  | some entry =>
    rw [entryFor_eq_of_some he]
    exact hb key entry he
  | none =>
    have hnone : ticketsOf key out = 0 := by
      rw [ticketsOf, Multiset.filter_eq_nil.2, Multiset.map_zero]
      exact Multiset.countP_eq_zero.1 (hp.count_eq_zero he)
    rw [entryFor_eq_of_none he, hnone]
    exact Breaker.holds_fresh t now

theorem Booked.reached (hb : Booked out r) (hi : r.reached? i = some (key, entry, j))
    (hown : (entry.breaker.step j).2.Holds (ticketsOf key out'))
    (hothers : ∀ other, other ≠ key → ticketsOf other out' = ticketsOf other out) :
    Booked out' (r.after i) := by
  obtain ⟨new, hself, hsame, hbreaker, -⟩ := entries_of_reached hi
  intro other e he
  by_cases hk : other = key
  · subst hk
    cases hself.symm.trans he
    rw [hbreaker]
    exact hown
  · rw [hsame other hk] at he
    rw [hothers other hk]
    exact hb other e he

theorem Booked.settled (hb : Booked (permit ::ₘ out) r) (hr : r.Lawful)
    (he : r.entry? permit.key = some entry) {outcome : Outcome} {elapsed : Span} {now : Instant}
    (hi : r.reached? i = some (permit.key, entry, .record permit.ticket outcome elapsed now)) :
    Booked out (r.after i) := by
  apply hb.reached hi
  · have hh := hb permit.key entry he
    rw [ticketsOf_cons_self] at hh
    exact hh.recorded (hr.shape he) (Breaker.step_record _ _ _ _ _)
  · intro other hne
    exact (ticketsOf_cons_of_ne out hne).symm

theorem Booked.dealt (hb : Booked out r) (hp : Pinned out r) (hr : r.Lawful)
    (hd : Dealt r out i out') (hi : i.byTicket = false) : Booked out' (r.after i) := by
  cases hd with
  | @admitted _ permit key t now answer =>
    obtain ⟨rfl, hverdict⟩ := verdict_of_admitted answer
    apply hb.reached (i := .acquire permit.key t now) rfl
    · rw [ticketsOf_cons_self]
      exact (hb.asked hp permit.key t now).admitted (Breaker.step_of_verdict hverdict)
    · intro other hne
      exact ticketsOf_cons_of_ne out hne
  | rejected key t now answer =>
    apply hb.reached (i := .acquire key t now) rfl
    · exact (hb.asked hp key t now).rejected (Breaker.step_of_verdict (verdict_of_rejected answer))
    · intro other hne
      rfl
  | @completed permit _ outcome elapsed now =>
    obtain ⟨entry, hh⟩ := hp.present permit (Multiset.mem_cons_self permit _)
    apply hb.settled hr (holder?_eq_some.1 hh).1
    rw [reached?, hh]
    rfl
  | @dropped permit _ now =>
    obtain ⟨entry, hh⟩ := hp.present permit (Multiset.mem_cons_self permit _)
    apply hb.settled hr (holder?_eq_some.1 hh).1
    rw [reached?, hh]
    rfl
  | recorded => cases hi
  | swept now retention =>
    intro key entry he
    exact hb key entry (entry?_of_after_sweep hp.distinct he)

theorem Lending.booked (hl : Lending is out) (hi : ∀ i ∈ is, i.byTicket = false) :
    Booked out (empty.run is) := by
  induction hl with
  | start => exact fun key entry he => nomatch he
  | @next is out i out' before dealt ih =>
    rw [run_append]
    have hbefore : Booked out (empty.run is) := by
      apply ih
      intro i hm
      exact hi i (List.mem_append_left _ hm)
    exact hbefore.dealt before.pinned ⟨_, chronicle_run is⟩ dealt (hi i (by simp))

end Turnstile.Breakers
