import Turnstile.Proofs.Breaker.Tickets
import Mathlib.Data.Set.List
/-!
Renumbering. A breaker does not look at the size of its epochs and tickets: with both raised, it
gives the same answers, raised likewise.
-/
namespace Turnstile

def Ticket.raise (epochs numbers : Nat) (ticket : Ticket) : Ticket :=
  ⟨ticket.epoch + epochs, ticket.number + numbers⟩

def InFlight.raise (numbers : Nat) (call : InFlight) : InFlight :=
  { call with number := call.number + numbers }

def Verdict.mapTicket (f : Ticket → Ticket) : Verdict → Verdict
  | .admitted ticket probe => .admitted (f ticket) probe
  | .rejected state denial => .rejected state denial

namespace Breaker

def Input.mapTicket (f : Ticket → Ticket) : Input → Input
  | .acquire t now => .acquire t now
  | .record ticket outcome elapsed now => .record (f ticket) outcome elapsed now

def Turn.mapTicket (f : Ticket → Ticket) : Turn → Turn
  | .acquired t now verdict change => .acquired t now (verdict.mapTicket f) change
  | .recorded ticket outcome elapsed now answer change =>
    .recorded (f ticket) outcome elapsed now answer change

def raise (epochs numbers : Nat) (b : Breaker) : Breaker :=
  { b with
    epoch := b.epoch + epochs
    nextNumber := b.nextNumber + numbers
    inFlight := b.inFlight.map (·.raise numbers) }

variable (e n : Nat) (b : Breaker)

theorem asked_raise (t : Thresholds) (now : Instant) :
    (b.raise e n).asked t now = (b.asked t now).raise e n := rfl

theorem moveTo_raise (target : Circuit) (now : Instant) :
    (b.raise e n).moveTo target now = (b.moveTo target now).raise e n := by
  simp [moveTo, raise, Nat.add_right_comm]

theorem issue_raise (probe : Bool) (now : Instant) :
    ((b.raise e n).issue probe now).2 = (b.issue probe now).2.raise e n := by
  simp [issue, raise, InFlight.raise, Nat.add_right_comm]

theorem probes_raise : (b.raise e n).probes = b.probes.map (·.raise n) := by
  simp only [probes, raise, List.filter_map]
  rfl

theorem probeOverdue_raise (now : Instant) :
    (b.raise e n).probeOverdue now = b.probeOverdue now := by
  rw [probeOverdue, probes_raise, List.any_map]
  rfl

theorem outstanding?_raise (ticket : Ticket) :
    (b.raise e n).outstanding? (ticket.raise e n) =
      (b.outstanding? ticket).map (·.raise n) := by
  unfold outstanding?
  by_cases he : ticket.epoch = b.epoch
  · have he' : (ticket.raise e n).epoch = (b.raise e n).epoch := congrArg (· + e) he
    rw [if_pos he, if_pos he']
    simp only [raise, List.find?_map]
    congr 2
    funext f
    simp [InFlight.raise, Ticket.raise]
  · have he' : (ticket.raise e n).epoch ≠ (b.raise e n).epoch :=
      fun h => he (Nat.add_right_cancel h)
    rw [if_neg he, if_neg he']
    rfl

theorem settled_raise (ticket : Ticket) (now : Instant) :
    (b.raise e n).settled (ticket.raise e n) now = (b.settled ticket now).raise e n := by
  have hf : ∀ f : InFlight, ((f.raise n).number != (ticket.raise e n).number) =
      (f.number != ticket.number) := by
    intro f
    simp [InFlight.raise, Ticket.raise, bne]
  simp only [settled, raise, List.filter_map, Function.comp_def, hf]

theorem sampled_raise (outcome : Outcome) (elapsed : Span) :
    (b.raise e n).sampled outcome elapsed = (b.sampled outcome elapsed).raise e n := rfl

theorem succeeded_raise : (b.raise e n).succeeded = b.succeeded.raise e n := rfl

theorem count_raise (call : InFlight) (outcome : Outcome) (elapsed : Span) (now : Instant) :
    (b.raise e n).count (call.raise n) outcome elapsed now =
      ((b.count call outcome elapsed now).1, (b.count call outcome elapsed now).2.raise e n) := by
  have hstate : (b.raise e n).state = b.state := rfl
  have htrip : ((b.sampled outcome elapsed).raise e n).shouldTrip =
      (b.sampled outcome elapsed).shouldTrip := rfl
  have hprobe : (call.raise n).probe = call.probe := rfl
  have hsucc : (b.raise e n).probeSuccesses = b.probeSuccesses := rfl
  have hthr : (b.raise e n).thresholds = b.thresholds := rfl
  rw [count_eq, count_eq, hstate, hprobe, hsucc, hthr]
  cases b.state <;> cases outcome <;>
    simp only [sampled_raise, succeeded_raise, moveTo_raise, htrip] <;> split_ifs <;> rfl

theorem record_raise (ticket : Ticket) (outcome : Outcome) (elapsed : Span) (now : Instant) :
    (b.raise e n).record (ticket.raise e n) outcome elapsed now =
      let r := b.record ticket outcome elapsed now
      (r.1, r.2.1, r.2.2.raise e n) := by
  rw [record_eq, record_eq, outstanding?_raise]
  cases b.outstanding? ticket with
  | none => rfl
  | some call => simp only [Option.map_some, settled_raise, count_raise]

theorem acquire_raise (t : Thresholds) (now : Instant) :
    (b.raise e n).acquire t now =
      let r := b.acquire t now
      (r.1.mapTicket (·.raise e n), r.2.1, r.2.2.raise e n) := by
  have hstate : (b.raise e n).state = b.state := rfl
  have hsince : (b.raise e n).transitionedAt = b.transitionedAt := rfl
  have hroom : (b.raise e n).probes.length = b.probes.length := by
    rw [probes_raise, List.length_map]
  rw [acquire_eq, acquire_eq, hstate, hsince, hroom]
  simp only [asked_raise, probeOverdue_raise, moveTo_raise, issue_raise]
  cases b.state with
  | closed => rfl
  | «open» =>
    dsimp only
    split
    · simp only [Verdict.mapTicket, Ticket.raise, Nat.add_right_comm]
      rfl
    · rfl
  | halfOpen =>
    dsimp only
    split
    · rfl
    · split <;> rfl

theorem step_raise (i : Input) :
    (b.raise e n).step (i.mapTicket (·.raise e n)) =
      ((b.step i).1.mapTicket (·.raise e n), (b.step i).2.raise e n) := by
  cases i with
  | acquire t now => simp only [step, Input.mapTicket, acquire_raise]; rfl
  | record ticket outcome elapsed now =>
    simp only [step, Input.mapTicket, record_raise]; rfl

theorem history_raise (is : List Input) :
    (b.raise e n).history (is.map (·.mapTicket (·.raise e n))) =
      (b.history is).map (·.mapTicket (·.raise e n)) := by
  induction is generalizing b with
  | nil => rfl
  | cons i is ih => simp only [List.map_cons, history, step_raise, ih]

def Input.Within (h : List Turn) : Input → Prop
  | .acquire .. => True
  | .record ticket .. => ticket ∈ h.filterMap Turn.ticket?

instance (h : List Turn) : DecidablePred (Input.Within h)
  | .acquire .. => inferInstanceAs (Decidable True)
  | .record ticket .. => inferInstanceAs (Decidable (ticket ∈ h.filterMap Turn.ticket?))

theorem Step.epoch_le {b b' : Breaker} {turn : Turn} (hs : Step b turn b') :
    b.epoch ≤ b'.epoch := by
  cases hc : turn.change with
  | none => exact Nat.le_of_eq (hs.quiet hc).2.1.symm
  | some c =>
    rw [(hs.moved hc).2.2.1]
    exact Nat.le_succ b.epoch

theorem ticket_ge (is : List Input) {ticket : Ticket}
    (ht : ticket ∈ (b.history is).filterMap Turn.ticket?) :
    b.epoch ≤ ticket.epoch ∧ b.nextNumber ≤ ticket.number := by
  induction is generalizing b with
  | nil => cases ht
  | cons i is ih =>
    have hs := step_spec b i
    have hnext : ticket ∈ ((b.step i).2.history is).filterMap Turn.ticket? →
        b.epoch ≤ ticket.epoch ∧ b.nextNumber ≤ ticket.number := by
      intro hm
      obtain ⟨he, hn⟩ := ih _ hm
      exact ⟨Nat.le_trans hs.epoch_le he, Nat.le_trans hs.nextNumber_le hn⟩
    rw [history] at ht
    cases hi : (b.step i).1.ticket? with
    | none =>
      rw [List.filterMap_cons_none hi] at ht
      exact hnext ht
    | some first =>
      rw [List.filterMap_cons_some hi] at ht
      rcases List.mem_cons.1 ht with rfl | hm
      · rw [(hs.ticket? hi).1]
        exact ⟨hs.epoch_le, Nat.le_refl b.nextNumber⟩
      · exact hnext hm

theorem Ticket.exists_raise {ticket : Ticket} (he : e ≤ ticket.epoch) (hn : n ≤ ticket.number) :
    ∃ low : Ticket, low.raise e n = ticket := by
  refine ⟨⟨ticket.epoch - e, ticket.number - n⟩, ?_⟩
  rw [Ticket.raise, Nat.sub_add_cancel he, Nat.sub_add_cancel hn]

/-- Inputs that keep to a breaker's own tickets are raised ones of a breaker that starts at none. -/
theorem history_of_raise {fresh : Breaker} (he : fresh.epoch = 0) (hn : fresh.nextNumber = 0)
    (is : List Input) (hw : ∀ i ∈ is, i.Within ((fresh.raise e n).history is)) :
    ∃ js : List Input, js.map (·.mapTicket (·.raise e n)) = is ∧
      (fresh.raise e n).history is = (fresh.history js).map (·.mapTicket (·.raise e n)) := by
  have hlow : ∀ i ∈ is, ∃ j : Input, j.mapTicket (·.raise e n) = i := by
    intro i hi
    have hi := hw i hi
    cases i with
    | acquire t now => exact ⟨.acquire t now, rfl⟩
    | record ticket outcome elapsed now =>
      obtain ⟨hge, hgn⟩ := ticket_ge _ is hi
      have he' : (fresh.raise e n).epoch = e := by simp [raise, he]
      have hn' : (fresh.raise e n).nextNumber = n := by simp [raise, hn]
      obtain ⟨low, hlow⟩ := Ticket.exists_raise e n (he' ▸ hge) (hn' ▸ hgn)
      exact ⟨.record low outcome elapsed now, congrArg (Input.record · outcome elapsed now) hlow⟩
  obtain ⟨js, rfl⟩ : is ∈ Set.range (List.map (Input.mapTicket (·.raise e n))) := by
    rw [Set.range_list_map]
    exact hlow
  exact ⟨js, rfl, history_raise e n fresh js⟩

end Breaker
end Turnstile
