import Turnstile.Proofs.Breakers.Pins
/-!
Lending. A registry gives permits out and takes them back, one input at a time. While a permit is
out, its key keeps the breaker that gave it out: whatever is done with the permit is done to the
breaker that all requests of the key are made to, and no sweep comes between them.
-/
namespace Turnstile.Breakers

/-- What an input does to the permits that are out. Only a permit that is out is completed or
dropped; a report by ticket and a sweep have to do with no permit. -/
inductive Dealt (r : Breakers) : Multiset BreakerPermit → Input → Multiset BreakerPermit → Prop
  | admitted {out permit} (key t now) (answer : (r.acquire key t now).1 = .admitted permit) :
      Dealt r out (.acquire key t now) (permit ::ₘ out)
  | rejected {out state denial} (key t now)
      (answer : (r.acquire key t now).1 = .rejected state denial) :
      Dealt r out (.acquire key t now) out
  | completed {permit out} (outcome elapsed now) :
      Dealt r (permit ::ₘ out) (.complete permit outcome elapsed now) out
  | dropped {permit out} (now) : Dealt r (permit ::ₘ out) (.drop permit now) out
  | recorded {out} (key ticket outcome elapsed now) :
      Dealt r out (.record key ticket outcome elapsed now) out
  | swept {out} (now retention) : Dealt r out (.sweep now retention) out

/-- The permits that a new registry has given out on some inputs and has not got back. -/
inductive Lending : List Input → Multiset BreakerPermit → Prop
  | start : Lending [] 0
  | next {is out i out'} (before : Lending is out) (dealt : Dealt (empty.run is) out i out') :
      Lending (is ++ [i]) out'

variable {r r' : Breakers} {out out' : Multiset BreakerPermit} {i : Input} {is : List Input}
  {key : Key} {permit : BreakerPermit} {entry : BreakerEntry}

theorem Pinned.drop (hp : Pinned (permit ::ₘ out) r) (now : Instant) :
    Pinned out (r.drop permit now) := by
  obtain ⟨entry, hh⟩ := hp.present permit (Multiset.mem_cons_self permit out)
  refine hp.settled (entry.breaker.record permit.ticket .ignored 0 now).2.2 hh ?_
  simp only [Breakers.drop, hh]
  rfl

theorem Pinned.record (hp : Pinned out r) (key : Key) (ticket : Ticket) (outcome : Outcome)
    (elapsed : Span) (now : Instant) :
    Pinned out (r.recordOutcome key ticket outcome elapsed now).2.2 := by
  cases he : r.entry? key with
  | none =>
    simp only [recordOutcome, he]
    exact hp
  | some entry =>
    simp only [recordOutcome, he]
    refine hp.set rfl ?_ (fun permit hm _ => hm) (hp.counted key entry he) (fun _ _ => rfl)
    intro permit hm hk
    obtain ⟨own, hh⟩ := hp.present permit hm
    obtain ⟨hown, hs⟩ := holder?_eq_some.1 hh
    rw [hk, he] at hown
    cases hown
    exact hs.symm

theorem Pinned.dealt (hp : Pinned out r) (hd : Dealt r out i out') : Pinned out' (r.after i) := by
  cases hd with
  | admitted key t now answer =>
    rcases ha : r.acquire key t now with ⟨admission, notices, r'⟩
    rw [ha] at answer
    cases answer
    rw [after, ha]
    exact hp.admitted ha
  | rejected key t now answer =>
    rcases ha : r.acquire key t now with ⟨admission, notices, r'⟩
    rw [ha] at answer
    cases answer
    rw [after, ha]
    exact hp.rejected ha
  | completed outcome elapsed now => exact hp.complete outcome elapsed now
  | dropped now => exact hp.drop now
  | recorded key ticket outcome elapsed now => exact hp.record key ticket outcome elapsed now
  | swept now retention => exact hp.sweep now retention

theorem Lending.pinned (hl : Lending is out) : Pinned out (empty.run is) := by
  induction hl with
  | start => exact pinned_empty
  | next before dealt ih =>
    rw [run_append]
    exact ih.dealt dealt

theorem verdict_of_admitted {t : Thresholds} {now : Instant}
    (answer : (r.acquire key t now).1 = .admitted permit) :
    permit.key = key ∧ ((r.entryFor key t now).1.breaker.acquire t now).1 =
      .admitted permit.ticket permit.probe := by
  simp only [acquire] at answer
  split at answer
  · next hverdict =>
    cases answer
    exact ⟨rfl, hverdict⟩
  · cases answer

theorem verdict_of_rejected {t : Thresholds} {now : Instant} {state : Circuit} {denial : Denial}
    (answer : (r.acquire key t now).1 = .rejected state denial) :
    ((r.entryFor key t now).1.breaker.acquire t now).1 = .rejected state denial := by
  simp only [acquire] at answer
  split at answer
  · cases answer
  · next hverdict =>
    cases answer
    exact hverdict

theorem Dealt.origin (hd : Dealt r out i out') (hm : permit ∈ out') :
    permit ∈ out ∨
      ∃ t now, i = .acquire permit.key t now ∧ (r.acquire permit.key t now).1 = .admitted permit := by
  cases hd with
  | admitted key t now answer =>
    obtain rfl | hm := Multiset.mem_cons.1 hm
    · obtain ⟨rfl, -⟩ := verdict_of_admitted answer
      exact .inr ⟨t, now, rfl, answer⟩
    · exact .inl hm
  | rejected | recorded | swept => exact .inl hm
  | completed | dropped => exact .inl (Multiset.mem_cons_of_mem hm)

/-- The permit was given out by the breaker that its key has had ever since. -/
def HandedOut (is : List Input) (permit : BreakerPermit) : Prop :=
  ∃ before t now later, is = before ++ .acquire permit.key t now :: later ∧
    ((empty.run before).acquire permit.key t now).1 = .admitted permit ∧
    ∀ mid rest, later = mid ++ rest → ∃ entry,
      (empty.run (before ++ .acquire permit.key t now :: mid)).holder? permit = some entry

theorem HandedOut.snoc (hh : HandedOut is permit)
    (hp : (empty.run (is ++ [i])).holder? permit = some entry) : HandedOut (is ++ [i]) permit := by
  obtain ⟨before, t, now, later, rfl, hanswer, hsince⟩ := hh
  refine ⟨before, t, now, later ++ [i], by simp, hanswer, ?_⟩
  intro mid rest hsplit
  induction rest using List.reverseRecOn with
  | nil =>
    rw [List.append_nil] at hsplit
    rw [List.append_assoc, List.cons_append, hsplit] at hp
    exact ⟨entry, hp⟩
  | append_singleton rest last _ =>
    rw [← List.append_assoc] at hsplit
    exact hsince mid rest (List.append_inj' hsplit rfl).1

theorem Lending.handedOut (hl : Lending is out) (hm : permit ∈ out) : HandedOut is permit := by
  induction hl with
  | start => exact absurd hm (Multiset.notMem_zero permit)
  | @next is out i out' before dealt ih =>
    have hpinned : Pinned out' (empty.run (is ++ [i])) := (before.next dealt).pinned
    obtain ⟨entry, hpresent⟩ := hpinned.present permit hm
    obtain hold | ⟨t, now, rfl, hanswer⟩ := dealt.origin hm
    · exact (ih hold).snoc hpresent
    · refine ⟨is, t, now, [], rfl, hanswer, ?_⟩
      intro mid rest hsplit
      obtain ⟨rfl, rfl⟩ := List.append_eq_nil_iff.1 hsplit.symm
      exact ⟨entry, hpresent⟩

/-- The entry that all is done to that is done with a permit, or with the key of it. -/
structure Binds (r : Breakers) (permit : BreakerPermit) (entry : BreakerEntry) : Prop where
  own : entry.serial = permit.serial
  present : r.entry? permit.key = some entry
  seen : r.state? permit.key = some entry.breaker.state
  asked : ∀ t now, r.entryFor permit.key t now = (entry, r)
  acquired : ∀ t now, (r.acquire permit.key t now).2.2.breaker? permit.key =
    some (entry.breaker.acquire t now).2.2
  completed : ∀ outcome elapsed now,
    let recorded := entry.breaker.record permit.ticket outcome elapsed now
    let answer := r.complete permit outcome elapsed now
    answer.1 = recorded.1 ∧ answer.2.2.breaker? permit.key = some recorded.2.2
  dropped : ∀ now, (r.drop permit now).breaker? permit.key =
    some (entry.breaker.record permit.ticket .ignored 0 now).2.2
  kept : ∀ now retention, entry? (r.sweep now retention).1 permit.key = some entry

theorem breaker?_eq_of_some (he : r.entry? key = some entry) : r.breaker? key = some entry.breaker := by
  rw [breaker?, he, Option.map_some]

theorem Pinned.binds (hp : Pinned out r) (hm : permit ∈ out)
    (he : r.entry? permit.key = some entry) : Binds r permit entry := by
  obtain ⟨own, hh⟩ := hp.present permit hm
  obtain ⟨hown, hserial⟩ := holder?_eq_some.1 hh
  cases he.symm.trans hown
  refine ⟨hserial, he, ?_, entryFor_eq_of_some he, ?_, ?_, ?_, ?_⟩
  · rw [state?, breaker?_eq_of_some he, Option.map_some]
  · intro t now
    have hr : r.reached? (.acquire permit.key t now) =
        some (permit.key, entry, .acquire t now) := by
      rw [reached?, entryFor_eq_of_some he]
    obtain ⟨next, hself, -, hb, -⟩ := entries_of_reached hr
    rw [← after, breaker?_eq_of_some hself, hb]
    rfl
  · intro outcome elapsed now
    simp only [Breakers.complete, hh]
    exact ⟨rfl, breaker?_eq_of_some (entry?_set_self _ _ _)⟩
  · intro now
    simp only [Breakers.drop, hh]
    exact breaker?_eq_of_some (entry?_set_self _ _ _)
  · intro now retention
    obtain ⟨left, hleft⟩ := (hp.sweep now retention).present permit hm
    have hsame := entry?_of_after_sweep hp.distinct (holder?_eq_some.1 hleft).1
    cases he.symm.trans hsame
    exact (holder?_eq_some.1 hleft).1

def Numbered (r : Breakers) : Prop :=
  ∀ key entry, r.entry? key = some entry → entry.serial < r.nextSerial

theorem nextSerial_acquire (r : Breakers) (key : Key) (t : Thresholds) (now : Instant) :
    (r.acquire key t now).2.2.nextSerial = (r.entryFor key t now).2.nextSerial := by
  simp only [acquire]
  split <;> rfl

theorem nextSerial_le_after (r : Breakers) (i : Input) : r.nextSerial ≤ (r.after i).nextSerial := by
  cases i with
  | acquire key t now =>
    rw [after, nextSerial_acquire]
    unfold entryFor
    split
    · exact Nat.le_refl r.nextSerial
    · exact Nat.le_succ r.nextSerial
  | complete permit =>
    simp only [after, complete]
    split <;> exact Nat.le_refl r.nextSerial
  | drop permit =>
    simp only [after, drop]
    split <;> exact Nat.le_refl r.nextSerial
  | record key =>
    simp only [after, recordOutcome]
    split <;> exact Nat.le_refl r.nextSerial
  | sweep => exact Nat.le_refl r.nextSerial

theorem Numbered.reached (hn : r.Numbered) {j : Breaker.Input}
    (hi : r.reached? i = some (key, entry, j)) : entry.serial < (r.after i).nextSerial := by
  obtain hold | ⟨hnone, t, now, rfl, -, rfl⟩ := entry?_of_reached hi
  · exact Nat.lt_of_lt_of_le (hn key entry hold) (nextSerial_le_after r i)
  · rw [Breakers.after, nextSerial_acquire, entryFor_eq_of_none hnone]
    exact Nat.lt_succ_self r.nextSerial

theorem Numbered.after (hn : r.Numbered) (hd : r.registry.Distinct) (i : Input) :
    (r.after i).Numbered := by
  intro key entry he
  by_cases hi : ∃ old j, r.reached? i = some (key, old, j)
  · obtain ⟨old, j, hi⟩ := hi
    obtain ⟨new, hself, -, -, hserial⟩ := entries_of_reached hi
    cases he.symm.trans hself
    rw [hserial]
    exact hn.reached hi
  · have hold : r.entry? key = some entry := by
      apply entry?_of_passed_by hd _ he
      intro old j hr
      exact hi ⟨old, j, hr⟩
    exact Nat.lt_of_lt_of_le (hn key entry hold) (nextSerial_le_after r i)

theorem numbered_run (is : List Input) : (empty.run is).Numbered := by
  induction is using List.reverseRecOn with
  | nil => exact fun key entry he => nomatch he
  | append_singleton is i ih =>
    rw [run_append]
    exact ih.after (chronicle_run is).distinct i

/-- A permit that is out pins its breaker: its key has had the breaker that gave it out ever since,
with a number that no breaker is given again, and all permits that are out for the key are bound to
this one breaker, which is what requests of the key and looks at its state go by. -/
theorem permit_pins_breaker (hl : Lending is out) (hm : permit ∈ out) :
    let r := empty.run is
    HandedOut is permit ∧ permit.serial < r.nextSerial ∧
      ∃ entry, Binds r permit entry ∧
        ∀ other ∈ out, other.key = permit.key → Binds r other entry := by
  intro r
  have hp : Pinned out r := hl.pinned
  obtain ⟨entry, hh⟩ := hp.present permit hm
  obtain ⟨he, hserial⟩ := holder?_eq_some.1 hh
  refine ⟨hl.handedOut hm, ?_, entry, hp.binds hm he, ?_⟩
  · rw [← hserial]
    exact numbered_run is permit.key entry he
  · intro other hother hkey
    exact hp.binds hother (hkey ▸ he)

/-- A permit is out for one key and has been completed for the other; a sweep that would keep no key
and no idle one evicts the second, and the first keeps its breaker. -/
theorem held_through_sweep :
    let t := Thresholds.standard
    let retention : Retention := ⟨0, 1, 0⟩
    let held : BreakerPermit := ⟨⟨"a"⟩, 0, ⟨0, 0⟩, false⟩
    let done : BreakerPermit := ⟨⟨"b"⟩, 1, ⟨0, 0⟩, false⟩
    let is := [Input.acquire ⟨"a"⟩ t 0, .acquire ⟨"b"⟩ t 1, .complete done .success 1 2,
      .sweep 3 retention]
    Lending is {held} ∧ entry? (empty.run is) ⟨"b"⟩ = none ∧
      ∃ entry, Binds (empty.run is) held entry := by
  intro t retention held done is
  have hone : Lending [.acquire ⟨"a"⟩ t 0] {held} :=
    @Lending.next [] _ _ _ .start (.admitted ⟨"a"⟩ t 0 (by decide +kernel))
  have htwo : Lending [.acquire ⟨"a"⟩ t 0, .acquire ⟨"b"⟩ t 1] (done ::ₘ {held}) :=
    @Lending.next [_] _ _ _ hone (.admitted ⟨"b"⟩ t 1 (by decide +kernel))
  have hl : Lending is {held} :=
    @Lending.next [_, _, _] _ _ _ (@Lending.next [_, _] _ _ _ htwo (.completed .success 1 2))
      (.swept 3 retention)
  obtain ⟨-, -, entry, hb, -⟩ := permit_pins_breaker hl (Multiset.mem_singleton_self held)
  exact ⟨hl, by decide +kernel, entry, hb⟩

end Turnstile.Breakers
