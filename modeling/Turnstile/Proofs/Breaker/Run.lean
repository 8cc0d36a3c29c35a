import Turnstile.Breaker.Basic
import Mathlib.Data.List.Induction
/-!
Runs of one breaker. A breaker takes any inputs in any order; its history says what was answered to
each of them. `Step` lists everything that a single input can do.
-/
namespace Turnstile.Breaker

inductive Input where
  | acquire (t : Thresholds) (now : Instant)
  | record (ticket : Ticket) (outcome : Outcome) (elapsed : Span) (now : Instant)
  deriving DecidableEq

def Input.instant : Input → Instant
  | .acquire _ now => now
  | .record _ _ _ now => now

inductive Turn where
  | acquired (t : Thresholds) (now : Instant) (verdict : Verdict) (change : Option Transition)
  | recorded (ticket : Ticket) (outcome : Outcome) (elapsed : Span) (now : Instant)
      (answer : Recorded) (change : Option Transition)
  deriving DecidableEq

namespace Turn

def input : Turn → Input
  | .acquired t now _ _ => .acquire t now
  | .recorded ticket outcome elapsed now _ _ => .record ticket outcome elapsed now

def instant (turn : Turn) : Instant := turn.input.instant

def change : Turn → Option Transition
  | .acquired _ _ _ change => change
  | .recorded _ _ _ _ _ change => change

variable {t : Thresholds} {now : Instant} {verdict : Verdict} {ticket : Ticket} {outcome : Outcome}
  {elapsed : Span} {answer : Recorded} {change : Option Transition}

@[simp] theorem instant_acquired : (acquired t now verdict change).instant = now := rfl
@[simp] theorem change_acquired : (acquired t now verdict change).change = change := rfl

@[simp] theorem instant_recorded :
    (recorded ticket outcome elapsed now answer change).instant = now := rfl

@[simp] theorem change_recorded :
    (recorded ticket outcome elapsed now answer change).change = change := rfl

end Turn

def step (b : Breaker) : Input → Turn × Breaker
  | .acquire t now =>
    let (verdict, change, next) := b.acquire t now
    (.acquired t now verdict change, next)
  | .record ticket outcome elapsed now =>
    let (answer, change, next) := b.record ticket outcome elapsed now
    (.recorded ticket outcome elapsed now answer change, next)

def run (b : Breaker) : List Input → Breaker
  | [] => b
  | i :: is => run (b.step i).2 is

def history (b : Breaker) : List Input → List Turn
  | [] => []
  | i :: is => (b.step i).1 :: history (b.step i).2 is

theorem run_append (b : Breaker) (is js : List Input) :
    b.run (is ++ js) = (b.run is).run js := by
  induction is generalizing b with
  | nil => rfl
  | cons i is ih => exact ih (b.step i).2

theorem history_append (b : Breaker) (is js : List Input) :
    b.history (is ++ js) = b.history is ++ (b.run is).history js := by
  induction is generalizing b with
  | nil => rfl
  | cons i is ih => simp only [List.cons_append, history, run, ih]

theorem step_input (b : Breaker) (i : Input) : (b.step i).1.input = i := by
  cases i <;> rfl

theorem history_input (b : Breaker) (is : List Input) :
    (b.history is).map Turn.input = is := by
  induction is generalizing b with
  | nil => rfl
  | cons i is ih => simp only [history, List.map_cons, ih, step_input]

/-- The breaker once it has heard of a request under thresholds `t`. -/
def asked (t : Thresholds) (now : Instant) (b : Breaker) : Breaker :=
  { b.adopt t with lastAccess := now }

def settled (ticket : Ticket) (now : Instant) (b : Breaker) : Breaker :=
  { b with
    lastAccess := now
    inFlight := b.inFlight.filter (·.number != ticket.number) }

def sampled (outcome : Outcome) (elapsed : Span) (b : Breaker) : Breaker :=
  { b with window := b.window.push (b.thresholds.sample outcome elapsed) }

def succeeded (b : Breaker) : Breaker := { b with probeSuccesses := b.probeSuccesses + 1 }

def nextTicket (b : Breaker) : Ticket := ⟨b.epoch, b.nextNumber⟩

/-- What one input can do, case by case. -/
inductive Step (b : Breaker) : Turn → Breaker → Prop
  | pass (t now) (state : b.state = .closed) :
      Step b (.acquired t now (.admitted b.nextTicket false) none)
        ((b.asked t now).issue false now).2
  | refuse (t now) (state : b.state = .open) (cooling : now.since b.transitionedAt < t.cooldown) :
      Step b (.acquired t now (.rejected .open .open) none) (b.asked t now)
  | tryOut (t now) (state : b.state = .open) (cooled : t.cooldown ≤ now.since b.transitionedAt) :
      Step b
        (.acquired t now (.admitted ⟨b.epoch + 1, b.nextNumber⟩ true) (some ⟨.open, .halfOpen⟩))
        (((b.asked t now).moveTo .halfOpen now).issue true now).2
  | expire (t now) (state : b.state = .halfOpen) (overdue : (b.asked t now).probeOverdue now) :
      Step b (.acquired t now (.rejected .open .open) (some ⟨.halfOpen, .open⟩))
        ((b.asked t now).moveTo .open now)
  | probe (t now) (state : b.state = .halfOpen) (timely : ¬ (b.asked t now).probeOverdue now)
      (room : b.probes.length < t.probePermits) :
      Step b (.acquired t now (.admitted b.nextTicket true) none)
        ((b.asked t now).issue true now).2
  | exhaust (t now) (state : b.state = .halfOpen) (timely : ¬ (b.asked t now).probeOverdue now)
      (full : t.probePermits ≤ b.probes.length) :
      Step b (.acquired t now (.rejected .halfOpen .probePermitExhausted) none) (b.asked t now)
  | discard (ticket outcome elapsed now) (unknown : b.outstanding? ticket = none) :
      Step b (.recorded ticket outcome elapsed now .discarded none) { b with lastAccess := now }
  | ignore (ticket elapsed now call) (known : b.outstanding? ticket = some call) :
      Step b (.recorded ticket .ignored elapsed now .applied none) (b.settled ticket now)
  | sample (ticket outcome elapsed now call) (known : b.outstanding? ticket = some call)
      (counted : outcome ≠ .ignored) (state : b.state = .closed)
      (calm : ¬ ((b.settled ticket now).sampled outcome elapsed).shouldTrip) :
      Step b (.recorded ticket outcome elapsed now .applied none)
        ((b.settled ticket now).sampled outcome elapsed)
  | trip (ticket outcome elapsed now call) (known : b.outstanding? ticket = some call)
      (counted : outcome ≠ .ignored) (state : b.state = .closed)
      (exceeded : ((b.settled ticket now).sampled outcome elapsed).shouldTrip) :
      Step b (.recorded ticket outcome elapsed now .applied (some ⟨.closed, .open⟩))
        (((b.settled ticket now).sampled outcome elapsed).moveTo .open now)
  | fail (ticket elapsed now call) (known : b.outstanding? ticket = some call)
      (state : b.state = .halfOpen) (probe : call.probe) :
      Step b (.recorded ticket .failure elapsed now .applied (some ⟨.halfOpen, .open⟩))
        ((b.settled ticket now).moveTo .open now)
  | succeed (ticket elapsed now call) (known : b.outstanding? ticket = some call)
      (state : b.state = .halfOpen) (probe : call.probe)
      (few : b.probeSuccesses + 1 < b.thresholds.successThreshold) :
      Step b (.recorded ticket .success elapsed now .applied none)
        (b.settled ticket now).succeeded
  | close (ticket elapsed now call) (known : b.outstanding? ticket = some call)
      (state : b.state = .halfOpen) (probe : call.probe)
      (enough : b.thresholds.successThreshold ≤ b.probeSuccesses + 1) :
      Step b (.recorded ticket .success elapsed now .applied (some ⟨.halfOpen, .closed⟩))
        ((b.settled ticket now).succeeded.moveTo .closed now)
  /-- An outcome that no state has a use for. -/
  | waste (ticket outcome elapsed now call) (known : b.outstanding? ticket = some call)
      (counted : outcome ≠ .ignored)
      (useless : b.state = .open ∨ b.state = .halfOpen ∧ call.probe = false) :
      Step b (.recorded ticket outcome elapsed now .applied none) (b.settled ticket now)

theorem acquire_eq (t : Thresholds) (now : Instant) (b : Breaker) :
    b.acquire t now = match b.state with
      | .closed => (.admitted b.nextTicket false, none, ((b.asked t now).issue false now).2)
      | .open =>
        if t.cooldown ≤ now.since b.transitionedAt then
          (.admitted ⟨b.epoch + 1, b.nextNumber⟩ true, some ⟨.open, .halfOpen⟩,
            (((b.asked t now).moveTo .halfOpen now).issue true now).2)
        else (.rejected .open .open, none, b.asked t now)
      | .halfOpen =>
        if (b.asked t now).probeOverdue now then
          (.rejected .open .open, some ⟨.halfOpen, .open⟩, (b.asked t now).moveTo .open now)
        else if b.probes.length < t.probePermits then
          (.admitted b.nextTicket true, none, ((b.asked t now).issue true now).2)
        else (.rejected .halfOpen .probePermitExhausted, none, b.asked t now) := by
  obtain ⟨state⟩ := b
  cases state <;> rfl

theorem record_eq (ticket : Ticket) (outcome : Outcome) (elapsed : Span) (now : Instant)
    (b : Breaker) :
    b.record ticket outcome elapsed now = match b.outstanding? ticket with
      | none => (.discarded, none, { b with lastAccess := now })
      | some call => (.applied, (b.settled ticket now).count call outcome elapsed now) := rfl

theorem step_acquire (t : Thresholds) (now : Instant) (b : Breaker) :
    Step b (b.step (.acquire t now)).1 (b.step (.acquire t now)).2 := by
  simp only [step, acquire_eq]
  cases hs : b.state with
  | closed => exact .pass t now hs
  | «open» =>
    dsimp only
    split
    · exact .tryOut t now hs ‹_›
    · exact .refuse t now hs (Nat.lt_of_not_le ‹_›)
  | halfOpen =>
    dsimp only
    split
    · exact .expire t now hs ‹_›
    · split
      · exact .probe t now hs ‹_› ‹_›
      · exact .exhaust t now hs ‹_› (Nat.le_of_not_lt ‹_›)

theorem step_of_verdict {b : Breaker} {t : Thresholds} {now : Instant} {verdict : Verdict}
    (hv : (b.acquire t now).1 = verdict) :
    Step b (.acquired t now verdict (b.acquire t now).2.1) (b.acquire t now).2.2 :=
  hv ▸ step_acquire t now b

theorem count_eq (call : InFlight) (outcome : Outcome) (elapsed : Span) (now : Instant)
    (b : Breaker) :
    b.count call outcome elapsed now = match b.state, outcome with
      | _, .ignored => (none, b)
      | .closed, outcome =>
        if (b.sampled outcome elapsed).shouldTrip then
          (some ⟨.closed, .open⟩, (b.sampled outcome elapsed).moveTo .open now)
        else (none, b.sampled outcome elapsed)
      | .halfOpen, .failure =>
        if call.probe then (some ⟨.halfOpen, .open⟩, b.moveTo .open now) else (none, b)
      | .halfOpen, .success =>
        if call.probe then
          if b.thresholds.successThreshold ≤ b.probeSuccesses + 1 then
            (some ⟨.halfOpen, .closed⟩, b.succeeded.moveTo .closed now)
          else (none, b.succeeded)
        else (none, b)
      | .open, _ => (none, b) := by
  obtain ⟨state⟩ := b
  cases state <;> cases outcome <;> rfl

theorem step_record (ticket : Ticket) (outcome : Outcome) (elapsed : Span) (now : Instant)
    (b : Breaker) :
    Step b (b.step (.record ticket outcome elapsed now)).1
      (b.step (.record ticket outcome elapsed now)).2 := by
  simp only [step, record_eq]
  cases hk : b.outstanding? ticket with
  | none => exact .discard ticket outcome elapsed now hk
  | some call =>
    have hstate : (b.settled ticket now).state = b.state := rfl
    dsimp only
    by_cases ho : outcome = .ignored
    · subst ho
      have hc : (b.settled ticket now).count call .ignored elapsed now =
          (none, b.settled ticket now) := by
        rw [count_eq]
      rw [hc]
      exact .ignore ticket elapsed now call hk
    · simp only [count_eq, hstate]
      cases hs : b.state with
      | closed =>
        cases outcome with
        | ignored => exact absurd rfl ho
        | success | failure =>
          dsimp only
          split
          · exact .trip ticket _ elapsed now call hk ho hs ‹_›
          · exact .sample ticket _ elapsed now call hk ho hs ‹_›
      | «open» =>
        cases outcome <;> exact .waste ticket _ elapsed now call hk ho (.inl hs)
      | halfOpen =>
        cases outcome with
        | ignored => exact absurd rfl ho
        | failure =>
          dsimp only
          split
          · exact .fail ticket elapsed now call hk hs ‹_›
          · next hp =>
            exact .waste ticket _ elapsed now call hk ho
              (.inr ⟨hs, eq_false_of_ne_true hp⟩)
        | success =>
          dsimp only
          split
          · split
            · exact .close ticket elapsed now call hk hs ‹_› ‹_›
            · exact .succeed ticket elapsed now call hk hs ‹_› (Nat.lt_of_not_le ‹_›)
          · next hp =>
            exact .waste ticket _ elapsed now call hk ho
              (.inr ⟨hs, eq_false_of_ne_true hp⟩)

theorem step_spec (b : Breaker) (i : Input) : Step b (b.step i).1 (b.step i).2 := by
  cases i with
  | acquire t now => exact step_acquire t now b
  | record ticket outcome elapsed now => exact step_record ticket outcome elapsed now b

end Turnstile.Breaker
