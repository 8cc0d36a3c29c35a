import Turnstile.Proofs.Breaker.Recovery
import Turnstile.Proofs.Config.Validation
import Turnstile.Proofs.Session.Run
/-!
Calls in flight. A guard reports outcomes with permits alone, so that each of its breakers waits for
just those permits that are out in the session and that the breaker has given out since its last
change of state. Where none is out, no slot is taken.
-/
namespace Turnstile

/-- The permit is one for `key`, and the breaker of `key` has given it out with no change of its state
since, as the history `h` of the breakers tells. -/
def Permit.Counted (h : List Breakers.Turn) (key : Key) (p : Permit) : Prop :=
  p.key = key ∧ ∃ permit ∈ p.breaker,
    Breaker.Lately (fun turn => turn.ticket? = some permit.ticket) (Breakers.life key h)

instance (h : List Breakers.Turn) (key : Key) : DecidablePred (Permit.Counted h key) :=
  fun _ => inferInstanceAs (Decidable (_ ∧ _))

namespace Custody

variable {α : Type} {c c' : Custody α} {is js : List Breakers.Input} {key : Key}
  {entry : BreakerEntry}

/-- The inputs that have been given to the breakers of a guard, none of them a report by ticket: they
have dealt out the permits that are out, and the guard has told the changes that came of them. -/
structure Served (c : Custody α) (is : List Breakers.Input) : Prop where
  breakers : c.guard.breakers = Breakers.empty.run is
  lent : Breakers.Lending is (breakerPermits c.out)
  own : ∀ i ∈ is, i.byTicket = false
  told : c.guard.transitions = Breakers.empty.runEvents is

theorem served_start (snapshot : Snapshot) : Served (⟨.ofSnapshot snapshot, 0⟩ : Custody α) [] where
  breakers := rfl
  lent := .start
  own _ hi := absurd hi List.not_mem_nil
  told := rfl

theorem Served.next (hs : c.Served is) (hg : Gives c c' js) : c'.Served (is ++ js) := by
  cases hg with
  | nothing breakers out told =>
    rw [List.append_nil]
    exact ⟨breakers.trans hs.breakers, out ▸ hs.lent, hs.own, told.trans hs.told⟩
  | @input i breakers dealt own told =>
    rw [hs.breakers] at breakers dealt told
    refine ⟨?_, hs.lent.next dealt, ?_, ?_⟩
    · rw [breakers, Breakers.run_append]
      rfl
    · intro j hj
      obtain hj | hj := List.mem_append.1 hj
      · exact hs.own j hj
      · exact List.mem_singleton.1 hj ▸ own
    · rw [told, hs.told, Breakers.runEvents_append]
      exact congrArg (_ ++ ·) (List.append_nil _).symm

theorem Run.served [Quantity α] {ds : List Deed} (hr : Run c ds c') (hs : ∃ is, c.Served is) :
    ∃ is, c'.Served is := by
  apply hr.keeps (P := fun c => ∃ is, c.Served is) _ hs
  intro c d c' hc hstep
  obtain ⟨is, hs⟩ := hc
  obtain ⟨js, hg⟩ := hstep.gives
  exact ⟨is ++ js, hs.next hg⟩

theorem Served.holds (hs : c.Served is) (he : c.guard.breakers.entry? key = some entry) :
    entry.breaker.Holds (Breakers.ticketsOf key (breakerPermits c.out)) := by
  rw [hs.breakers] at he
  exact hs.lent.booked hs.own key entry he

theorem Served.ledger (hs : c.Served is) (he : c.guard.breakers.entry? key = some entry) :
    Breaker.Ledger (Breakers.life key (Breakers.empty.history is)) entry.breaker := by
  rw [hs.breakers] at he
  exact ((Breakers.chronicle_run is).ledger he).1

theorem countP_ticketsOf (epoch : Nat) (key : Key) (out : Multiset Permit)
    (hk : ∀ p ∈ out, ∀ permit, p.breaker = some permit → permit.key = p.key) :
    (Breakers.ticketsOf key (breakerPermits out)).countP (·.epoch = epoch) =
      out.countP fun p => p.key = key ∧ ∃ permit ∈ p.breaker, permit.ticket.epoch = epoch := by
  induction out using Multiset.induction_on with
  | empty => rfl
  | cons p out ih =>
    have ih := ih fun q hq => hk q (Multiset.mem_cons_of_mem hq)
    cases hp : p.breaker with
    | none => simp [breakerPermits_none hp, ih, hp]
    | some permit =>
      have hown : permit.key = p.key := hk p (Multiset.mem_cons_self p out) permit hp
      rw [breakerPermits_some hp, Multiset.countP_cons, ← ih]
      by_cases hkey : p.key = key
      · subst hkey
        rw [← hown, Breakers.ticketsOf_cons_self, Multiset.countP_cons]
        simp [hp, hown]
      · rw [Breakers.ticketsOf_cons_of_ne _ (hown ▸ Ne.symm hkey)]
        simp [hkey]

theorem Served.counted_iff (hs : c.Served is) (hc : c.Sound)
    (he : c.guard.breakers.entry? key = some entry) {p : Permit} (hp : p ∈ c.out) :
    p.Counted (Breakers.empty.history is) key ↔
      p.key = key ∧ ∃ permit ∈ p.breaker, permit.ticket.epoch = entry.breaker.epoch := by
  apply and_congr_right
  intro hkey
  apply exists_congr
  intro permit
  apply and_congr_right
  intro hpermit
  have hown : permit.key = key := (hc.keyed p hp permit hpermit).trans hkey
  have hm : permit ∈ breakerPermits c.out := (Multiset.mem_filterMap _ _).2 ⟨p, hp, hpermit⟩
  have hticket := Breakers.mem_ticketsOf hm
  rw [hown] at hticket
  exact ((hs.holds he).epoch_eq_iff (hs.ledger he) hticket).symm

theorem Served.inFlight_length (hs : c.Served is) (hc : c.Sound)
    (he : c.guard.breakers.entry? key = some entry) :
    entry.breaker.inFlight.length =
      c.out.countP (·.Counted (Breakers.empty.history is) key) := by
  rw [(hs.holds he).inFlight_length, countP_ticketsOf _ key c.out hc.keyed]
  apply Multiset.countP_congr rfl
  intro p hp
  exact propext (hs.counted_iff hc he hp).symm

theorem Served.inFlight_eq_nil (hs : c.Served is) (hc : c.Sound)
    (he : c.guard.breakers.entry? key = some entry)
    (hnone : ∀ p ∈ c.out, p.key = key → p.breaker = none) : entry.breaker.inFlight = [] := by
  rw [← List.length_eq_zero_iff, hs.inFlight_length hc he, Multiset.countP_eq_zero]
  rintro p hp ⟨hkey, permit, hpermit, -⟩
  rw [hnone p hp hkey] at hpermit
  cases hpermit

end Custody

theorem Breakers.acquire_vacant {r : Breakers} {key : Key} {entry : BreakerEntry} {t : Thresholds}
    (he : r.entry? key = some entry) (hhalf : entry.breaker.state = .halfOpen)
    (hidle : entry.breaker.inFlight = []) (hp : 1 ≤ t.probePermits) (now : Instant) :
    ∃ permit, (r.acquire key t now).1 = .admitted permit ∧ permit.probe = true := by
  have hvacant : entry.breaker.probes = [] := by
    rw [Breaker.probes, hidle, List.filter_nil]
  have hverdict := Breaker.acquire_vacant hhalf hvacant hp now
  refine ⟨⟨key, entry.serial, entry.breaker.nextTicket, true⟩, ?_, rfl⟩
  simp only [acquire, entryFor_eq_of_some he, hverdict]

namespace Guard

variable {α : Type} [Quantity α] {g : Guard α} {key : Key} {t : Thresholds}

/-- The next call of a key that asks its breaker under thresholds `t` is let in as a probe. -/
structure TakesProbe (g : Guard α) (key : Key) (t : Thresholds) : Prop where
  asked : ∀ now, ∃ permit, (g.breakers.acquire key t now).1 = .admitted permit ∧
    permit.probe = true
  entered : ∀ wait method ctx policy, g.snapshot.extract method ctx = (key, policy) →
    policy.thresholds = some t → ((g.advance wait).takeTokens key policy).1 = true →
    ∃ p, ((g.advance wait).enter method ctx).1 = .ok p ∧ p.probe = true

theorem takesProbe_of_vacant {entry : BreakerEntry} (he : g.breakers.entry? key = some entry)
    (hhalf : entry.breaker.state = .halfOpen) (hidle : entry.breaker.inFlight = [])
    (hp : 1 ≤ t.probePermits) : g.TakesProbe key t where
  asked := Breakers.acquire_vacant he hhalf hidle hp
  entered := by
    intro wait method ctx policy hx ht hpaid
    have hbreakers : ((g.advance wait).takeTokens key policy).2.breakers = g.breakers :=
      ((g.advance wait).takeTokens_frame key policy).2.2.1
    obtain ⟨permit, hadmitted, hprobe⟩ :=
      Breakers.acquire_vacant he hhalf hidle hp ((g.advance wait).takeTokens key policy).2.now
    rw [← hbreakers] at hadmitted
    rcases he : (g.advance wait).enter method ctx with ⟨answer, g'⟩
    have hentry := entry_of_enter he
    have hsame : (g.advance wait).snapshot.extract method ctx = (key, policy) := hx
    rw [hsame] at hentry
    cases hentry with
    | throttled short =>
      rw [hpaid] at short
      cases short
    | refused paid denied =>
      cases denied with
      | denied on acquired =>
        cases ht.symm.trans on
        rw [acquired] at hadmitted
        cases hadmitted
    | passed paid slot =>
      cases slot with
      | unasked off => cases ht.symm.trans off
      | taken on acquired =>
        cases ht.symm.trans on
        rw [acquired] at hadmitted
        cases hadmitted
        exact ⟨_, rfl, hprobe⟩

end Guard

namespace Session

variable {α β ε : Type} [Quantity α]

/-- In every run of a guard, each breaker waits for as many outcomes as there are permits that are
out for its key and that it has given out since its last change of state. If no permit of a breaker
is out for the key, the breaker waits for none, and if it is half-open, it lets the next call pass as
a probe, whatever accepted thresholds the call comes with. -/
theorem in_flight_accounting [CallFault ε] (snapshot : Snapshot) (as : List (Action β ε)) :
    let s : Session α β ε := (ofGuard (.ofSnapshot snapshot)).run as
    (∃ is, s.custody.Served is) ∧
    ∀ is, s.custody.Served is → ∀ key b, s.guard.breakers.breaker? key = some b →
      b.inFlight.length = s.out.countP (·.Counted (Breakers.empty.history is) key) ∧
      ((∀ p ∈ s.out, p.key = key → p.breaker = none) →
        b.inFlight = [] ∧
        (b.state = .halfOpen → ∀ scope t, t.violations scope = [] → s.guard.TakesProbe key t)) := by
  intro s
  have hc : s.custody.Sound := sound_run snapshot as
  obtain ⟨ds, hr, -⟩ := (tidy_ofGuard (β := β) (.ofSnapshot snapshot : Guard α)).run_reaches as
  refine ⟨hr.served ⟨[], Custody.served_start snapshot⟩, ?_⟩
  intro is hs key b hb
  obtain ⟨entry, he, rfl⟩ := Option.map_eq_some_iff.1 hb
  refine ⟨hs.inFlight_length hc he, ?_⟩
  intro hnone
  have hidle : entry.breaker.inFlight = [] := hs.inFlight_eq_nil hc he hnone
  refine ⟨hidle, ?_⟩
  intro hhalf scope t hv
  exact Guard.takesProbe_of_vacant he hhalf hidle (t.probePermits_pos hv)

/-- A call is out when the failure of another one opens the breaker: its permit takes no slot any
more. -/
example :
    let c : Config :=
      { Config.standard with
        classifier := ⟨[.cancelled], []⟩
        circuitBreaking := ⟨true, { Thresholds.standard with minimumCalls := 1 }⟩ }
    let s : Session Rat Unit := (ofGuard (.ofSnapshot (.ofConfig 1 c))).run
      [.enter "a" "m" .empty, .enter "b" "m" .empty, .drop "a"]
    s.out.countP (·.key = ⟨"m"⟩) = 1 ∧
      (s.guard.breakers.breaker? ⟨"m"⟩).map (fun b => (b.state, b.inFlight.length)) =
        some (.open, 0) := by
  decide +kernel

end Session
end Turnstile
