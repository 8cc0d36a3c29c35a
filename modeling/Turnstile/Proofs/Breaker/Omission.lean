import Turnstile.Proofs.Breaker.Renumbering
import Turnstile.Proofs.Breaker.Trip
import Mathlib.Data.Finset.Insert
import Mathlib.Data.List.Find
import Mathlib.Data.List.Pairwise
/-!
Calls that leave no trace. A call that a closed breaker has let through and whose outcome was ignored,
or has never come, can be taken out of a run: what remains is answered as before, and leads through the
same states, with the tickets numbered anew.
-/
namespace Turnstile

def Ticket.place (kept : List Ticket) (ticket : Ticket) : Ticket :=
  { ticket with number := kept.idxOf ticket }

namespace InFlight

def ticket (epoch : Nat) (f : InFlight) : Ticket := ⟨epoch, f.number⟩

def place (kept : List Ticket) (epoch : Nat) (f : InFlight) : InFlight :=
  { f with number := kept.idxOf (f.ticket epoch) }

def placed (kept : List Ticket) (epoch : Nat) (calls : List InFlight) : List InFlight :=
  (calls.filter (·.ticket epoch ∈ kept)).map (·.place kept epoch)

variable {kept : List Ticket} {epoch : Nat} {ticket : Ticket}

theorem placed_append (calls later : List InFlight) :
    placed kept epoch (calls ++ later) = placed kept epoch calls ++ placed kept epoch later := by
  rw [placed, List.filter_append, List.map_append]
  rfl

theorem placed_single {f : InFlight} (hm : f.ticket epoch ∈ kept) :
    placed kept epoch [f] = [f.place kept epoch] := by
  simp [placed, hm]

theorem placed_single_of_not_mem {f : InFlight} (hm : f.ticket epoch ∉ kept) :
    placed kept epoch [f] = [] := by
  simp [placed, hm]

theorem number_beq (he : ticket.epoch = epoch) (f : InFlight) :
    (f.number == ticket.number) = decide (f.ticket epoch = ticket) := by
  obtain ⟨epoch, number⟩ := ticket
  subst he
  refine decide_eq_decide.2 ?_
  simp [InFlight.ticket]

theorem place_beq {f : InFlight} (hm : f.ticket epoch ∈ kept) (ticket : Ticket) :
    ((f.place kept epoch).number == kept.idxOf ticket) = decide (f.ticket epoch = ticket) :=
  decide_eq_decide.2 (List.idxOf_inj hm)

theorem placed_settled (he : ticket.epoch = epoch) (calls : List InFlight) :
    (placed kept epoch calls).filter (·.number != kept.idxOf ticket) =
      placed kept epoch (calls.filter (·.number != ticket.number)) := by
  simp only [placed, List.filter_map, List.filter_filter]
  refine congrArg (List.map _) (List.filter_congr fun f _ => ?_)
  by_cases hm : f.ticket epoch ∈ kept
  · simp [bne, number_beq he, place_beq hm, hm]
  · simp [hm]

theorem placed_settled_of_not_mem (he : ticket.epoch = epoch) (hm : ticket ∉ kept)
    (calls : List InFlight) :
    placed kept epoch (calls.filter (·.number != ticket.number)) = placed kept epoch calls := by
  simp only [placed, List.filter_filter]
  refine congrArg (List.map _) (List.filter_congr fun f _ => ?_)
  by_cases hf : f.ticket epoch = ticket
  · simp [hf, hm]
  · simp [bne, number_beq he, hf]

theorem find?_placed (he : ticket.epoch = epoch) {calls : List InFlight}
    (hk : ∀ f ∈ calls, f.ticket epoch = ticket → ticket ∈ kept) :
    (placed kept epoch calls).find? (·.number == kept.idxOf ticket) =
      (calls.find? (·.number == ticket.number)).map (·.place kept epoch) := by
  simp only [placed, List.find?_map, List.find?_filter]
  refine congrArg (Option.map _) (List.find?_congr fun f hf => ?_)
  by_cases hm : f.ticket epoch ∈ kept
  · simp [number_beq he, place_beq hm, hm]
  · have hne : f.ticket epoch ≠ ticket := fun h => hm (h ▸ hk f hf h)
    simp [number_beq he, hm, hne]

end InFlight

namespace Breaker

/-- The breaker with the admissions in `kept` only, numbered by their places there. -/
def retain (kept : List Ticket) (next : Nat) (last : Instant) (b : Breaker) : Breaker :=
  { b with
    lastAccess := last
    nextNumber := next
    inFlight := InFlight.placed kept b.epoch b.inFlight }

section Retain

variable {kept : List Ticket} {next : Nat} {last : Instant} {b : Breaker} {ticket : Ticket}

theorem issue_retain (hm : b.nextTicket ∈ kept) (hi : kept.idxOf b.nextTicket = next)
    (probe : Bool) (now : Instant) :
    (b.retain kept next last).issue probe now =
      ((b.issue probe now).1.mapTicket (·.place kept),
        (b.issue probe now).2.retain kept (next + 1) last) := by
  have hnew : InFlight.placed kept b.epoch [⟨b.nextNumber, probe, now⟩] = [⟨next, probe, now⟩] := by
    rw [InFlight.placed_single hm, ← hi]
    rfl
  have hticket : b.nextTicket.place kept = ⟨b.epoch, next⟩ := congrArg (Ticket.mk b.epoch) hi
  refine Prod.ext ?_ ?_
  · exact congrArg (Verdict.admitted · probe) hticket.symm
  · simp only [issue, retain, InFlight.placed_append, hnew]

theorem admitted_retain (hm : b.nextTicket ∈ kept) (hi : kept.idxOf b.nextTicket = next)
    (probe : Bool) (t : Thresholds) (now : Instant) (change : Option Transition) :
    (Turn.acquired t now ((b.retain kept next last).issue probe now).1 change,
      ((b.retain kept next last).issue probe now).2) =
    ((Turn.acquired t now (.admitted b.nextTicket probe) change).mapTicket (·.place kept),
      (b.issue probe now).2.retain kept (next + 1) last) := by
  rw [issue_retain hm hi]
  rfl

theorem issue_dropped (hm : b.nextTicket ∉ kept) (probe : Bool) (now : Instant) :
    (b.issue probe now).2.retain kept next last = b.retain kept next last := by
  have hnew : InFlight.placed kept b.epoch [⟨b.nextNumber, probe, now⟩] = [] :=
    InFlight.placed_single_of_not_mem hm
  simp only [issue, retain, InFlight.placed_append, hnew, List.append_nil]

theorem probes_retain (hp : ∀ f ∈ b.probes, f.ticket b.epoch ∈ kept) :
    (b.retain kept next last).probes = b.probes.map (·.place kept b.epoch) := by
  have hsame : (b.inFlight.filter (·.ticket b.epoch ∈ kept)).filter (·.probe) = b.probes := by
    rw [List.filter_filter]
    refine List.filter_congr fun f hf => ?_
    cases hprobe : f.probe with
    | false => rfl
    | true =>
      rw [Bool.true_and]
      exact decide_eq_true (hp f (List.mem_filter.2 ⟨hf, hprobe⟩))
  rw [probes, retain, InFlight.placed, List.filter_map]
  exact congrArg (List.map _) hsame

theorem probeOverdue_retain (hp : ∀ f ∈ b.probes, f.ticket b.epoch ∈ kept) (now : Instant) :
    (b.retain kept next last).probeOverdue now = b.probeOverdue now := by
  rw [probeOverdue, probes_retain hp, List.any_map]
  rfl

/-- A ticket in its place names the same admission as before, if it is kept whenever it names one. -/
theorem outstanding?_retain (hk : ∀ f ∈ b.inFlight, f.ticket b.epoch = ticket → ticket ∈ kept) :
    (b.retain kept next last).outstanding? (ticket.place kept) =
      (b.outstanding? ticket).map (·.place kept b.epoch) := by
  unfold outstanding?
  by_cases he : ticket.epoch = b.epoch
  · have he' : (ticket.place kept).epoch = (b.retain kept next last).epoch := he
    rw [if_pos he, if_pos he']
    exact InFlight.find?_placed he hk
  · have he' : (ticket.place kept).epoch ≠ (b.retain kept next last).epoch := he
    rw [if_neg he, if_neg he']
    rfl

theorem settled_retain (he : ticket.epoch = b.epoch) (now : Instant) :
    (b.retain kept next last).settled (ticket.place kept) now =
      (b.settled ticket now).retain kept next now := by
  simp only [settled, retain, Ticket.place, InFlight.placed_settled he]

theorem settled_dropped (he : ticket.epoch = b.epoch) (hm : ticket ∉ kept) (now : Instant) :
    (b.settled ticket now).retain kept next last = b.retain kept next last := by
  simp only [settled, retain, InFlight.placed_settled_of_not_mem he hm]

theorem count_retain (call : InFlight) (outcome : Outcome) (elapsed : Span) (now : Instant) :
    (b.retain kept next last).count (call.place kept b.epoch) outcome elapsed now =
      ((b.count call outcome elapsed now).1,
        (b.count call outcome elapsed now).2.retain kept next last) := by
  have hstate : (b.retain kept next last).state = b.state := rfl
  have htrip : ((b.retain kept next last).sampled outcome elapsed).shouldTrip =
      (b.sampled outcome elapsed).shouldTrip := rfl
  have hprobe : (call.place kept b.epoch).probe = call.probe := rfl
  have hsucc : (b.retain kept next last).probeSuccesses = b.probeSuccesses := rfl
  have hthr : (b.retain kept next last).thresholds = b.thresholds := rfl
  rw [count_eq, count_eq, hstate, hprobe, hsucc, hthr]
  cases b.state <;> cases outcome <;> simp only [htrip] <;> split_ifs <;> rfl

theorem record_retain (hk : ∀ f ∈ b.inFlight, f.ticket b.epoch = ticket → ticket ∈ kept)
    (outcome : Outcome) (elapsed : Span) (now : Instant) :
    (b.retain kept next last).record (ticket.place kept) outcome elapsed now =
      let r := b.record ticket outcome elapsed now
      (r.1, r.2.1, r.2.2.retain kept next now) := by
  rw [record_eq, record_eq, outstanding?_retain hk]
  cases hcall : b.outstanding? ticket with
  | none => rfl
  | some call =>
    have he : ticket.epoch = b.epoch := epoch_of_outstanding hcall
    have hcount : ((b.settled ticket now).retain kept next now).count (call.place kept b.epoch)
        outcome elapsed now = _ := count_retain call outcome elapsed now
    simp only [Option.map_some, settled_retain he, hcount]

theorem step_acquire_retain (hp : ∀ f ∈ b.probes, f.ticket b.epoch ∈ kept) (t : Thresholds)
    (now : Instant)
    (hnew : ∀ ticket, (b.step (.acquire t now)).1.ticket? = some ticket →
      ticket ∈ kept ∧ kept.idxOf ticket = next) :
    (b.retain kept next last).step (.acquire t now) =
      ((b.step (.acquire t now)).1.mapTicket (·.place kept),
        (b.step (.acquire t now)).2.retain kept
          (next + (b.step (.acquire t now)).1.ticket?.toList.length) now) := by
  have hstate : (b.retain kept next last).state = b.state := rfl
  have hsince : (b.retain kept next last).transitionedAt = b.transitionedAt := rfl
  have hasked : (b.retain kept next last).asked t now = (b.asked t now).retain kept next now := rfl
  have hroom : (b.retain kept next last).probes.length = b.probes.length := by
    rw [probes_retain hp, List.length_map]
  have hover : ((b.asked t now).retain kept next now).probeOverdue now =
      (b.asked t now).probeOverdue now := probeOverdue_retain (b := b.asked t now) hp now
  simp only [step, acquire_eq] at hnew ⊢
  rw [hstate, hsince, hroom, hasked, hover]
  cases hs : b.state with
  | closed =>
    simp only [hs, Turn.ticket?_admitted, Option.some.injEq, forall_eq'] at hnew
    exact admitted_retain (b := b.asked t now) hnew.1 hnew.2 false t now none
  | «open» =>
    simp only [hs] at hnew
    dsimp only
    split
    · next hcooled =>
      simp only [if_pos hcooled, Turn.ticket?_admitted, Option.some.injEq, forall_eq'] at hnew
      exact admitted_retain (b := (b.asked t now).moveTo .halfOpen now) hnew.1 hnew.2 true t now _
    · rfl
  | halfOpen =>
    simp only [hs] at hnew
    dsimp only
    split
    · rfl
    · next htimely =>
      simp only [if_neg htimely] at hnew
      split
      · next hfree =>
        simp only [if_pos hfree, Turn.ticket?_admitted, Option.some.injEq, forall_eq'] at hnew
        exact admitted_retain (b := b.asked t now) hnew.1 hnew.2 true t now none
      · rfl

end Retain

namespace Turn

/-- The turn hands out a ticket in `gone`, or is a report with one. -/
def about (gone : Finset Ticket) : Turn → Bool
  | .acquired _ _ (.admitted ticket _) _ => ticket ∈ gone
  | .acquired _ _ (.rejected ..) _ => false
  | .recorded ticket .. => ticket ∈ gone

theorem about_of_ticket? {gone : Finset Ticket} {turn : Turn} {ticket : Ticket}
    (ht : turn.ticket? = some ticket) : turn.about gone = decide (ticket ∈ gone) := by
  match turn, ht with
  | .acquired _ _ (.admitted _ _) _, rfl => rfl

/-- A report with the ticket is applied, and its outcome is a success or a failure. -/
def counts (ticket : Ticket) : Turn → Bool
  | .recorded given outcome _ _ .applied _ => given == ticket && outcome != .ignored
  | _ => false

end Turn

/-- In this run a closed breaker has handed out the ticket, and no report with it has counted. -/
structure Unnoticed (b : Breaker) (is : List Input) (ticket : Ticket) : Prop where
  passed : ∃ before i after, is = before ++ i :: after ∧ (b.run before).state = .closed ∧
    ((b.run before).step i).1.ticket? = some ticket
  uncounted : ∀ turn ∈ b.history is, ¬ turn.counts ticket

/-- What is left of a history without the tickets in `gone`. -/
def spared (gone : Finset Ticket) (h : List Turn) : List Turn := h.filter fun turn => !turn.about gone

def keptTickets (gone : Finset Ticket) (h : List Turn) : List Ticket :=
  (h.filterMap Turn.ticket?).filter (· ∉ gone)

section Runs

variable {kept : List Ticket} {next : Nat} {last : Instant} {b b' : Breaker} {turn : Turn}
  {h : List Turn} {t : Thresholds} {gone : Finset Ticket} {ticket : Ticket}

theorem Shape.retain_asked (hb : b.Shape) (ht : b.thresholds = t) (now : Instant) :
    (b.asked t now).retain kept next last = b.retain kept next last := by
  have hw : (b.asked t now).window = b.window := hb.window_asked ht now
  subst ht
  rw [retain, hw]
  rfl

theorem Step.retain_of_about (hs : Step b turn b') (hb : b.Shape) (ht : b.thresholds = t)
    (hu : turn.input.Under t) (habout : turn.about gone) (hkept : ∀ ticket ∈ gone, ticket ∉ kept)
    (hpass : ∀ ticket, turn.ticket? = some ticket → turn.probe = false)
    (hcount : ∀ ticket ∈ gone, ¬ turn.counts ticket) :
    b'.retain kept next last = b.retain kept next last := by
  cases hs with
  | pass given now =>
    cases hu
    have hm : b.nextTicket ∉ kept := hkept _ (of_decide_eq_true habout)
    exact (issue_dropped (b := b.asked _ now) hm false now).trans (hb.retain_asked ht now)
  | refuse | expire | exhaust => cases habout
  | tryOut | probe => cases hpass _ rfl
  | discard => rfl
  | ignore ticket _ now _ known =>
    exact settled_dropped (epoch_of_outstanding known) (hkept ticket (of_decide_eq_true habout)) now
  | sample ticket _ _ _ _ _ counted | trip ticket _ _ _ _ _ counted
  | waste ticket _ _ _ _ _ counted =>
    exact absurd (by simp [Turn.counts, counted]) (hcount ticket (of_decide_eq_true habout))
  | fail ticket | succeed ticket | close ticket =>
    exact absurd (by simp [Turn.counts]) (hcount ticket (of_decide_eq_true habout))

theorem step_retain (i : Input) (hleft : (b.step i).1.about gone = false)
    (hopen : ∀ f ∈ b.inFlight, f.ticket b.epoch ∈ gone ∨ f.ticket b.epoch ∈ kept)
    (hp : ∀ f ∈ b.probes, f.ticket b.epoch ∈ kept)
    (hnew : ∀ ticket, (b.step i).1.ticket? = some ticket →
      ticket ∈ kept ∧ kept.idxOf ticket = next) :
    (b.retain kept next last).step (i.mapTicket (·.place kept)) =
      ((b.step i).1.mapTicket (·.place kept),
        (b.step i).2.retain kept (next + (b.step i).1.ticket?.toList.length) i.instant) := by
  cases i with
  | acquire t now => exact step_acquire_retain hp t now hnew
  | record ticket outcome elapsed now =>
    have hgone : ticket ∉ gone := of_decide_eq_false hleft
    have hk : ∀ f ∈ b.inFlight, f.ticket b.epoch = ticket → ticket ∈ kept := by
      rintro f hf rfl
      exact (hopen f hf).resolve_left hgone
    simp only [step, Input.mapTicket, record_retain hk]
    rfl

theorem keptTickets_append (gone : Finset Ticket) (h later : List Turn) :
    keptTickets gone (h ++ later) = keptTickets gone h ++ keptTickets gone later := by
  rw [keptTickets, List.filterMap_append, List.filter_append]
  rfl

theorem keptTickets_single (gone : Finset Ticket) (turn : Turn) :
    keptTickets gone [turn] = if turn.about gone then [] else turn.ticket?.toList := by
  match turn with
  | .acquired _ _ (.admitted ticket _) _ =>
    by_cases hm : ticket ∈ gone <;> simp [keptTickets, Turn.about, hm]
  | .acquired _ _ (.rejected ..) _ => rfl
  | .recorded ticket .. => simp [keptTickets]

theorem mem_keptTickets (hm : turn ∈ h) (ht : turn.ticket? = some ticket) (hn : ticket ∉ gone) :
    ticket ∈ keptTickets gone h :=
  List.mem_filter.2 ⟨List.mem_filterMap.2 ⟨turn, hm, ht⟩, decide_eq_true hn⟩

theorem spared_snoc (gone : Finset Ticket) (h : List Turn) (turn : Turn) :
    spared gone (h ++ [turn]) = spared gone h ++ if turn.about gone then [] else [turn] := by
  rw [spared, List.filter_append]
  cases hm : turn.about gone <;> simp [spared, hm]

theorem eq_of_ticket? (hn : (h.filterMap Turn.ticket?).Nodup) {x y : Turn} (hx : x ∈ h) (hy : y ∈ h)
    (hxt : x.ticket? = some ticket) (hyt : y.ticket? = some ticket) : x = y := by
  have hapart := List.pairwise_filterMap.1 hn
  have hsymm : Std.Symm fun x y : Turn =>
      ∀ a, x.ticket? = some a → ∀ c, y.ticket? = some c → a ≠ c :=
    ⟨fun _ _ hne a ha c hc => (hne c hc a ha).symm⟩
  by_contra hne
  exact hapart.forall hx hy hne ticket hxt ticket hyt rfl

theorem Unnoticed.not_probe {is : List Input} (hu : Unnoticed b is ticket)
    (hn : ((b.history is).filterMap Turn.ticket?).Nodup) (hm : turn ∈ b.history is)
    (ht : turn.ticket? = some ticket) : turn.probe = false := by
  obtain ⟨before, i, after, rfl, hclosed, hi⟩ := hu.passed
  have hthis : ((b.run before).step i).1 ∈ b.history (before ++ i :: after) := by
    rw [history_append]
    exact List.mem_append_right _ List.mem_cons_self
  rw [eq_of_ticket? hn hm hthis ht hi]
  have hs := step_spec (b.run before) i
  generalize (b.run before).step i = r at hs hi
  obtain ⟨turn, next⟩ := r
  cases hs with
  | pass => rfl
  | tryOut _ _ state | probe _ _ state =>
    rw [hclosed] at state
    cases state
  | _ => cases hi

theorem Ledger.admits (hl : Ledger h b) {f : InFlight} (hf : f ∈ b.inFlight) :
    ∃ turn ∈ h, turn.Admits (f.ticket b.epoch) f.probe f.issuedAt := by
  obtain ⟨before, turn, after, rfl, ha, -⟩ := ((hl.inFlight f).1 hf).1
  exact ⟨turn, by simp, ha⟩

theorem idxOf_keptTickets {later : List Turn} (hn : (keptTickets gone (h ++ turn :: later)).Nodup)
    (hleft : turn.about gone = false) (ht : turn.ticket? = some ticket) :
    (keptTickets gone (h ++ turn :: later)).idxOf ticket = (keptTickets gone h).length := by
  have hsplit : keptTickets gone (h ++ turn :: later) =
      keptTickets gone h ++ ticket :: keptTickets gone later := by
    rw [keptTickets_append, ← List.singleton_append, keptTickets_append, keptTickets_single, hleft, ht]
    rfl
  rw [hsplit] at hn ⊢
  have hfirst : ticket ∉ keptTickets gone h := fun hm =>
    List.disjoint_of_nodup_append hn hm List.mem_cons_self
  rw [List.idxOf_append_of_notMem hfirst, List.idxOf_cons_self, Nat.add_zero]

def remaining (kept : List Ticket) (gone : Finset Ticket) (h : List Turn) : List Input :=
  (spared gone h).map fun turn => turn.input.mapTicket (·.place kept)

/-- What is left of the history of `b` is a history of its own, and leads to what is kept of `b`. -/
structure Alongside (new : Breaker) (kept : List Ticket) (gone : Finset Ticket) (h : List Turn)
    (b : Breaker) : Prop where
  history : new.history (remaining kept gone h) = (spared gone h).map (·.mapTicket (·.place kept))
  run : ∃ last, new.run (remaining kept gone h) =
    b.retain kept (keptTickets gone h).length last

variable {new : Breaker} {i : Input}

theorem Alongside.leave (ha : Alongside new kept gone h b) (habout : turn.about gone = true)
    (hsame : ∀ next last, b'.retain kept next last = b.retain kept next last) :
    Alongside new kept gone (h ++ [turn]) b' := by
  have hspared : spared gone (h ++ [turn]) = spared gone h := by
    rw [spared_snoc, if_pos habout, List.append_nil]
  have hkept : keptTickets gone (h ++ [turn]) = keptTickets gone h := by
    rw [keptTickets_append, keptTickets_single, if_pos habout, List.append_nil]
  obtain ⟨hhistory, last, hrun⟩ := ha
  constructor
  · rw [remaining, hspared]
    exact hhistory
  · refine ⟨last, ?_⟩
    rw [remaining, hspared, hkept, hsame]
    exact hrun

theorem Alongside.keep (ha : Alongside new kept gone h b) (hleft : (b.step i).1.about gone = false)
    (hstep : ∀ last, (b.retain kept (keptTickets gone h).length last).step
      (i.mapTicket (·.place kept)) = ((b.step i).1.mapTicket (·.place kept),
        (b.step i).2.retain kept
          ((keptTickets gone h).length + (b.step i).1.ticket?.toList.length) i.instant)) :
    Alongside new kept gone (h ++ [(b.step i).1]) (b.step i).2 := by
  have hleft : ¬ (b.step i).1.about gone = true := by simp [hleft]
  have hspared : spared gone (h ++ [(b.step i).1]) = spared gone h ++ [(b.step i).1] := by
    rw [spared_snoc, if_neg hleft]
  have hremaining : remaining kept gone (h ++ [(b.step i).1]) =
      remaining kept gone h ++ [i.mapTicket (·.place kept)] := by
    rw [remaining, hspared, List.map_append, List.map_singleton, step_input]
    rfl
  have hkept : (keptTickets gone (h ++ [(b.step i).1])).length =
      (keptTickets gone h).length + (b.step i).1.ticket?.toList.length := by
    rw [keptTickets_append, keptTickets_single, if_neg hleft, List.length_append]
  obtain ⟨hhistory, last, hrun⟩ := ha
  constructor
  · rw [hremaining, hspared, history_append, hhistory, hrun, List.map_append]
    simp only [Breaker.history, hstep, List.map_singleton]
  · refine ⟨i.instant, ?_⟩
    rw [hremaining, run_append, hrun, hkept]
    simp only [Breaker.run, hstep]

theorem Alongside.step {all later : List Turn} (ha : Alongside new (keptTickets gone all) gone h b)
    (hall : all = h ++ (b.step i).1 :: later) (hn : (all.filterMap Turn.ticket?).Nodup)
    (hl : Ledger h b) (hb : b.Shape) (ht : b.thresholds = t) (hi : i.Under t)
    (hpass : ∀ ticket ∈ gone, ∀ turn ∈ all, turn.ticket? = some ticket → turn.probe = false)
    (hcount : ∀ ticket ∈ gone, ∀ turn ∈ all, ¬ turn.counts ticket) :
    Alongside new (keptTickets gone all) gone (h ++ [(b.step i).1]) (b.step i).2 := by
  have hthis : (b.step i).1 ∈ all := by simp [hall]
  have hearlier : ∀ turn ∈ h, turn ∈ all := fun turn hm => by simp [hall, hm]
  cases habout : (b.step i).1.about gone with
  | true =>
    have hgone : ∀ ticket, (b.step i).1.ticket? = some ticket → ticket ∈ gone := by
      intro ticket ht
      rw [Turn.about_of_ticket? ht] at habout
      exact of_decide_eq_true habout
    refine ha.leave habout fun next last => ?_
    refine (step_spec b i).retain_of_about hb ht ((step_input b i).symm ▸ hi) habout ?_ ?_ ?_
    · exact fun ticket hm hk => of_decide_eq_true (List.mem_filter.1 hk).2 hm
    · exact fun ticket ht => hpass ticket (hgone ticket ht) _ hthis ht
    · exact fun ticket hm => hcount ticket hm _ hthis
  | false =>
    have hopen : ∀ f ∈ b.inFlight,
        f.ticket b.epoch ∈ gone ∨ f.ticket b.epoch ∈ keptTickets gone all := by
      intro f hf
      obtain ⟨turn, hm, ha⟩ := hl.admits hf
      by_cases hg : f.ticket b.epoch ∈ gone
      · exact .inl hg
      · exact .inr (mem_keptTickets (hearlier turn hm) ha.1 hg)
    -- The probes out are all of turns that stay, since no turn that is left out admits one.
    have hprobes : ∀ f ∈ b.probes, f.ticket b.epoch ∈ keptTickets gone all := by
      intro f hf
      obtain ⟨hf, hp⟩ := List.mem_filter.1 hf
      refine (hopen f hf).resolve_left fun hg => ?_
      obtain ⟨turn, hm, hticket, hprobe, -⟩ := hl.admits hf
      rw [hpass _ hg turn (hearlier turn hm) hticket, hp] at hprobe
      cases hprobe
    refine ha.keep habout fun last => step_retain i habout hopen hprobes fun ticket ht => ⟨?_, ?_⟩
    · rw [Turn.about_of_ticket? ht] at habout
      exact mem_keptTickets hthis ht (of_decide_eq_false habout)
    · subst hall
      exact idxOf_keptTickets (hn.filter _) habout ht

theorem alongside_run (start : Instant) {is : List Input} (hu : ∀ i ∈ is, i.Under t)
    (hgone : ∀ ticket ∈ gone, Unnoticed (fresh t start) is ticket) {before after : List Input}
    (he : is = before ++ after) :
    Alongside (fresh t start) (keptTickets gone ((fresh t start).history is)) gone
      ((fresh t start).history before) ((fresh t start).run before) := by
  have hn := tickets_nodup t start is
  -- Tickets are numbered by the whole run and not by its beginning: a report can come before its call.
  induction before using List.reverseRecOn generalizing after with
  | nil => exact ⟨rfl, start, rfl⟩
  | append_singleton before i ih =>
    rw [List.append_assoc] at he
    have hsteady := window_samples start before fun j hj => hu j (by simp [he, hj])
    have hsplit : (fresh t start).history is = (fresh t start).history before ++
        (((fresh t start).run before).step i).1 ::
          (((fresh t start).run before).step i).2.history after := by
      rw [he, history_append]
      rfl
    rw [history_append, run_append]
    exact (ih he).step hsplit hn (ledger_run t start before) (shape_run t start before) hsteady.1
      (hu i (by simp [he])) (fun ticket hm turn => (hgone ticket hm).not_probe hn)
      (fun ticket hm => (hgone ticket hm).uncounted)

/-- Under one set of thresholds, any calls that a closed breaker has let through, and of which no
success and no failure has counted, can be taken out of a run, with all reports of them. What is left
of the run is answered as before, up to the numbers of tickets, and every part of it leads to the same
state and epoch, and to the same window. -/
theorem unnoticed_calls_leave_no_trace (t : Thresholds) (start : Instant) (is : List Input)
    (hu : ∀ i ∈ is, i.Under t) (gone : Finset Ticket)
    (hgone : ∀ ticket ∈ gone, Unnoticed (fresh t start) is ticket) :
    let kept := keptTickets gone ((fresh t start).history is)
    ∀ before after, is = before ++ after →
      let h := (fresh t start).history before
      let b := (fresh t start).run before
      let c := (fresh t start).run (remaining kept gone h)
      (fresh t start).history (remaining kept gone h) =
          (spared gone h).map (·.mapTicket (·.place kept)) ∧
        c.state = b.state ∧ c.epoch = b.epoch ∧ c.window = b.window := by
  intro kept before after he h b c
  obtain ⟨hhistory, last, hrun⟩ := alongside_run start hu hgone he
  have hc : c = b.retain kept (keptTickets gone h).length last := hrun
  rw [hc]
  exact ⟨hhistory, rfl, rfl, rfl⟩

/-- Two calls are let through beside the one that trips the breaker. One reports too late and one never.
Without them, the call and the probe that follows it have the first two numbers. -/
theorem unreported_calls_taken_out :
    let t := { Thresholds.standard with minimumCalls := 1, cooldownMs := 0 }
    let is := [Input.acquire t 0, .acquire t 0, .acquire t 1, .record ⟨0, 1⟩ .failure 1 2,
      .record ⟨0, 0⟩ .success 1 2, .acquire t 3, .record ⟨2, 3⟩ .ignored 1 4]
    let rest := [Input.acquire t 0, .record ⟨0, 0⟩ .failure 1 2, .acquire t 3,
      .record ⟨2, 1⟩ .ignored 1 4]
    let gone : Finset Ticket := {⟨0, 0⟩, ⟨0, 2⟩}
    let b := (fresh t 0).run is
    let c := (fresh t 0).run rest
    (∀ i ∈ is, i.Under t) ∧ (∀ ticket ∈ gone, Unnoticed (fresh t 0) is ticket) ∧
      c.state = b.state ∧ c.epoch = b.epoch ∧ c.window = b.window := by
  intro t is rest gone b c
  have hu : ∀ i ∈ is, i.Under t := by decide
  have hgone : ∀ ticket ∈ gone, Unnoticed (fresh t 0) is ticket := by
    have huncounted : ∀ ticket ∈ gone, ∀ turn ∈ (fresh t 0).history is, ¬ turn.counts ticket := by
      decide +kernel
    intro ticket hm
    refine ⟨?_, huncounted ticket hm⟩
    obtain rfl | rfl : ticket = ⟨0, 0⟩ ∨ ticket = ⟨0, 2⟩ := by simpa [gone] using hm
    · exact ⟨[], .acquire t 0, is.drop 1, rfl, by decide +kernel, by decide +kernel⟩
    · exact ⟨is.take 2, .acquire t 1, is.drop 3, rfl, by decide +kernel, by decide +kernel⟩
  have hrest : remaining (keptTickets gone ((fresh t 0).history is)) gone
      ((fresh t 0).history is) = rest := by
    decide +kernel
  have key := (unnoticed_calls_leave_no_trace t 0 is hu gone hgone is [] (List.append_nil is).symm).2
  rw [hrest] at key
  exact ⟨hu, hgone, key⟩

end Runs
end Breaker
end Turnstile
