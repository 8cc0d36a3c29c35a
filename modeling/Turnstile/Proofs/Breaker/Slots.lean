import Turnstile.Proofs.Breaker.Tickets
import Mathlib.Algebra.Order.Group.Multiset
/-!
Slots. A breaker waits for the outcomes of the tickets that its callers hold and that are of the
epoch it is in. A ticket of an earlier epoch takes no slot, and when it comes back it frees none.
-/
namespace Turnstile.Breaker

def tickets (b : Breaker) : Multiset Ticket :=
  (b.inFlight.map fun f => ⟨b.epoch, f.number⟩ : List Ticket)

/-- The tickets in `own` are those that the callers of a breaker hold. -/
structure Holds (own : Multiset Ticket) (b : Breaker) : Prop where
  current : own.filter (·.epoch = b.epoch) = b.tickets
  past : ∀ ticket ∈ own, ticket.epoch ≤ b.epoch

variable {b b' : Breaker} {own : Multiset Ticket} {ticket : Ticket} {t : Thresholds}
  {probe : Bool} {state : Circuit} {denial : Denial} {outcome : Outcome} {elapsed : Span}
  {now : Instant} {answer : Recorded} {change : Option Transition}

theorem filter_epoch_cons (epoch number : Nat) (own : Multiset Ticket) :
    (Ticket.mk epoch number ::ₘ own).filter (·.epoch = epoch) =
      Ticket.mk epoch number ::ₘ own.filter (·.epoch = epoch) :=
  Multiset.filter_cons_of_pos own rfl

theorem holds_fresh (t : Thresholds) (start : Instant) : Holds 0 (fresh t start) where
  current := rfl
  past := by simp

theorem Holds.asked (hh : Holds own b) (t : Thresholds) (now : Instant) : Holds own (b.asked t now) :=
  ⟨hh.current, hh.past⟩

theorem Holds.issue (hh : Holds own b) (probe : Bool) (now : Instant) :
    Holds (b.nextTicket ::ₘ own) (b.issue probe now).2 where
  current := by
    have hnew : (b.issue probe now).2.tickets = b.nextTicket ::ₘ b.tickets := by
      have hperm : (b.issue probe now).2.inFlight.Perm
          (⟨b.nextNumber, probe, now⟩ :: b.inFlight) := List.perm_append_singleton _ b.inFlight
      exact Multiset.coe_eq_coe.2 (hperm.map _)
    rw [hnew, ← hh.current]
    exact filter_epoch_cons b.epoch b.nextNumber own
  past := by
    intro ticket hm
    obtain rfl | hm := Multiset.mem_cons.1 hm
    · exact Nat.le_refl b.epoch
    · exact hh.past ticket hm

theorem Holds.moveTo (hh : Holds own b) (target : Circuit) (now : Instant) :
    Holds own (b.moveTo target now) where
  current := by
    apply Multiset.filter_eq_nil.2
    intro ticket hm he
    have hle := hh.past ticket hm
    rw [he] at hle
    exact Nat.not_succ_le_self b.epoch hle
  past := by
    intro ticket hm
    exact Nat.le_succ_of_le (hh.past ticket hm)

theorem Holds.forget (hh : Holds (ticket ::ₘ own) b) (hb : b.Shape)
    (unknown : b.outstanding? ticket = none) : Holds own b where
  current := by
    have hpast : ticket.epoch ≠ b.epoch := by
      intro he
      have hm : ticket ∈ b.tickets := by
        rw [← hh.current]
        exact Multiset.mem_filter.2 ⟨Multiset.mem_cons_self ticket own, he⟩
      obtain ⟨f, hf, rfl⟩ := List.mem_map.1 (Multiset.mem_coe.1 hm)
      rw [hb.outstanding?_eq_some.2 ⟨rfl, hf⟩] at unknown
      cases unknown
    rw [← hh.current]
    exact (Multiset.filter_cons_of_neg own hpast).symm
  past := by
    intro ticket hm
    exact hh.past ticket (Multiset.mem_cons_of_mem hm)

theorem Holds.settle (hh : Holds (ticket ::ₘ own) b) (hb : b.Shape) {call : InFlight}
    (known : b.outstanding? ticket = some call) (now : Instant) : Holds own (b.settled ticket now) where
  current := by
    obtain ⟨rfl, hm⟩ := hb.outstanding?_eq_some.1 known
    have hslot : b.tickets =
        ⟨b.epoch, call.number⟩ ::ₘ (b.settled ⟨b.epoch, call.number⟩ now).tickets :=
      Multiset.coe_eq_coe.2 ((hb.inFlight_perm hm).map _)
    have hcurrent := hh.current
    rw [filter_epoch_cons, hslot] at hcurrent
    exact (Multiset.cons_inj_right _).1 hcurrent
  past := by
    intro ticket hm
    exact hh.past ticket (Multiset.mem_cons_of_mem hm)

theorem Holds.admitted (hh : Holds own b)
    (hs : Step b (.acquired t now (.admitted ticket probe) change) b') :
    Holds (ticket ::ₘ own) b' := by
  cases hs with
  | pass => exact (hh.asked t now).issue false now
  | tryOut => exact ((hh.asked t now).moveTo .halfOpen now).issue true now
  | probe => exact (hh.asked t now).issue true now

theorem Holds.rejected (hh : Holds own b)
    (hs : Step b (.acquired t now (.rejected state denial) change) b') : Holds own b' := by
  cases hs with
  | refuse | exhaust => exact hh.asked t now
  | expire => exact (hh.asked t now).moveTo .open now

theorem Holds.recorded (hh : Holds (ticket ::ₘ own) b) (hb : b.Shape)
    (hs : Step b (.recorded ticket outcome elapsed now answer change) b') : Holds own b' := by
  cases hs with
  | discard _ _ _ _ unknown =>
    have hleft := hh.forget hb unknown
    exact ⟨hleft.current, hleft.past⟩
  | ignore _ _ _ _ known | sample _ _ _ _ _ known | succeed _ _ _ _ known
  | waste _ _ _ _ _ known =>
    have hleft := hh.settle hb known now
    exact ⟨hleft.current, hleft.past⟩
  | fail _ _ _ _ known => exact (hh.settle hb known now).moveTo .open now
  | trip _ _ _ _ _ known =>
    have hleft := (hh.settle hb known now).moveTo .open now
    exact ⟨hleft.current, hleft.past⟩
  | close _ _ _ _ known =>
    have hleft := (hh.settle hb known now).moveTo .closed now
    exact ⟨hleft.current, hleft.past⟩

theorem Holds.inFlight_length (hh : Holds own b) :
    b.inFlight.length = own.countP (·.epoch = b.epoch) := by
  rw [Multiset.countP_eq_card_filter, hh.current]
  simp [tickets]

/-- A ticket that is held is of the epoch that the breaker is in if and only if it was handed out
with no change of state since. -/
theorem Holds.epoch_eq_iff {h : List Turn} (hh : Holds own b) (hl : Ledger h b) (hm : ticket ∈ own) :
    ticket.epoch = b.epoch ↔ Lately (fun turn => turn.ticket? = some ticket) h := by
  constructor
  · intro he
    have hout : ticket ∈ b.tickets := by
      rw [← hh.current]
      exact Multiset.mem_filter.2 ⟨hm, he⟩
    obtain ⟨f, hf, rfl⟩ := List.mem_map.1 (Multiset.mem_coe.1 hout)
    exact ((hl.inFlight f).1 hf).pending.1
  · exact hl.current ticket

end Turnstile.Breaker
