import Turnstile.Proofs.Breakers.Asked
import Mathlib.Data.List.Chain
/-!
What the events of a registry tell. Every change of state of a breaker is told once, under its key,
when it is made, and nothing else is. So the changes that have been told of a key since its breaker
was made lead, one after the other, from closed to the state that the breaker is in.
-/
namespace Turnstile

def Transition.ways : List Transition :=
  [⟨.closed, .open⟩, ⟨.open, .halfOpen⟩, ⟨.halfOpen, .open⟩, ⟨.halfOpen, .closed⟩]

namespace Breaker

variable {b b' : Breaker} {turn : Turn} {told : List Transition} {c : Transition}

/-- The changes `told` lead from closed to the state that the breaker is in, and none is left out. -/
structure Story (b : Breaker) (told : List Transition) : Prop where
  known : ∀ c ∈ told, c ∈ Transition.ways
  start : ∀ c, told.head? = some c → c.source = .closed
  linked : told.IsChain fun c next => c.target = next.source
  counted : told.length = b.epoch
  arrived : (told.getLast?.map (·.target)).getD .closed = b.state

theorem story_fresh (t : Thresholds) (start : Instant) : Story (fresh t start) [] where
  known := by simp
  start := by simp
  linked := List.isChain_nil
  counted := rfl
  arrived := rfl

theorem Step.known_way (hs : Step b turn b') (hc : turn.change = some c) : c ∈ Transition.ways := by
  cases hs with
  | tryOut | expire | trip | fail | close =>
    cases hc
    decide
  | _ => cases hc

theorem Story.snoc (hst : b.Story told) (hway : c ∈ Transition.ways) (hsource : c.source = b.state)
    (hstate : b'.state = c.target) (hepoch : b'.epoch = b.epoch + 1) : b'.Story (told ++ [c]) where
  known := by
    intro d hd
    obtain hd | hd := List.mem_append.1 hd
    · exact hst.known d hd
    · exact List.mem_singleton.1 hd ▸ hway
  start := by
    intro d hd
    cases told with
    | nil =>
      cases hd
      rw [hsource, ← hst.arrived]
      rfl
    | cons first rest => exact hst.start d hd
  linked := by
    apply List.isChain_append.2
    refine ⟨hst.linked, List.isChain_singleton c, ?_⟩
    intro last hlast next hnext
    have harrived := hst.arrived
    rw [Option.mem_def.1 hlast] at harrived
    cases hnext
    rw [hsource]
    exact harrived
  counted := by
    rw [List.length_append, hst.counted, hepoch]
    rfl
  arrived := by
    rw [List.getLast?_concat, hstate]
    rfl

theorem Story.step (hst : b.Story told) (hs : Step b turn b') :
    b'.Story (told ++ turn.change.toList) := by
  cases hc : turn.change with
  | none =>
    obtain ⟨hstate, hepoch, -⟩ := hs.quiet hc
    rw [Option.toList_none, List.append_nil]
    exact { hst with counted := hepoch ▸ hst.counted, arrived := hstate ▸ hst.arrived }
  | some c =>
    obtain ⟨hsource, hstate, hepoch, -⟩ := hs.moved hc
    exact hst.snoc (hs.known_way hc) hsource hstate hepoch

theorem record_ignored_change (b : Breaker) (ticket : Ticket) (elapsed : Span) (now : Instant) :
    (b.record ticket .ignored elapsed now).2.1 = none := by
  rw [record_eq]
  cases b.outstanding? ticket with
  | none => rfl
  | some call => simp only [count_eq]

end Breaker

def Event.change? (key : Key) : Event → Option Transition
  | .transition k c => if k = key then some c else none
  | _ => none

def Event.isTransition : Event → Bool
  | .transition .. => true
  | _ => false

namespace Breakers

/-- What is reported when a registry is given an input. What becomes of a dropped permit or of a
sweep is reported to nobody. -/
def notices (r : Breakers) : Input → List Notice
  | .acquire key t now => (r.acquire key t now).2.1
  | .complete permit outcome elapsed now => (r.complete permit outcome elapsed now).2.1
  | .record key ticket outcome elapsed now =>
    (r.recordOutcome key ticket outcome elapsed now).2.1
  | .drop .. | .sweep .. => []

def events (r : Breakers) (i : Input) : List Event := Notice.events (r.notices i)

def runEvents (r : Breakers) : List Input → List Event
  | [] => []
  | i :: is => r.events i ++ runEvents (r.after i) is

/-- What the events of some inputs tell of a key since its breaker was made, after what they `told`
before. A key without a breaker has nothing to be told of. -/
def tale (key : Key) (told : List Transition) (r : Breakers) : List Input → List Transition
  | [] => told
  | i :: is =>
    let told := told ++ (r.events i).filterMap (Event.change? key)
    tale key (if entry? (r.after i) key = none then [] else told) (r.after i) is

def Changed (r r' : Breakers) (key : Key) (c : Transition) : Prop :=
  ∃ b b', r.breaker? key = some b ∧ r'.breaker? key = some b' ∧
    ¬ (b'.state = b.state ∧ b'.epoch = b.epoch) ∧ c = ⟨b.state, b'.state⟩

theorem runEvents_append (r : Breakers) (is js : List Input) :
    r.runEvents (is ++ js) = r.runEvents is ++ (r.run is).runEvents js := by
  induction is generalizing r with
  | nil => rfl
  | cons i is ih => simp only [List.cons_append, runEvents, run, ih, List.append_assoc]

theorem tale_append (key : Key) (told : List Transition) (r : Breakers) (is js : List Input) :
    tale key told r (is ++ js) = tale key (tale key told r is) (r.run is) js := by
  induction is generalizing told r with
  | nil => rfl
  | cons i is ih => exact ih _ (r.after i)

variable {r : Breakers} {key : Key} {entry : BreakerEntry} {i : Input} {j : Breaker.Input}

theorem events_of_reached (hi : r.reached? i = some (key, entry, j)) :
    r.events i = (entry.breaker.step j).1.change.toList.map (.transition key) := by
  cases i with
  | acquire k t now =>
    cases hi
    exact acquire_events r key t now
  | complete permit outcome elapsed now =>
    obtain ⟨e, he, heq⟩ := Option.map_eq_some_iff.1 hi
    cases heq
    simp only [events, notices, complete, he]
    exact report_events _ _ _ _ _ _
  | drop permit now =>
    obtain ⟨e, he, heq⟩ := Option.map_eq_some_iff.1 hi
    cases heq
    have hq := entry.breaker.record_ignored_change permit.ticket 0 now
    simp only [Breaker.step, Breaker.Turn.change_recorded, hq]
    rfl
  | record k ticket outcome elapsed now =>
    obtain ⟨e, he, heq⟩ := Option.map_eq_some_iff.1 hi
    cases heq
    simp only [events, notices, recordOutcome, he]
    exact report_events _ _ _ _ _ _
  | sweep => cases hi

theorem events_of_unreached (hi : r.reached? i = none) : r.events i = [] := by
  cases i with
  | acquire => cases hi
  | complete permit outcome elapsed now =>
    have hh : r.holder? permit = none := Option.map_eq_none_iff.1 hi
    simp only [events, notices, complete, hh]
    rfl
  | record k ticket outcome elapsed now =>
    have he : r.entry? k = none := Option.map_eq_none_iff.1 hi
    simp only [events, notices, recordOutcome, he]
    rfl
  | drop | sweep => rfl

theorem events_single (i : Input) :
    r.events i = [] ∨ ∃ key c, r.events i = [.transition key c] := by
  cases hi : r.reached? i with
  | none => exact .inl (events_of_unreached hi)
  | some reached =>
    obtain ⟨key, entry, j⟩ := reached
    rw [events_of_reached hi]
    cases (entry.breaker.step j).1.change with
    | none => exact .inl rfl
    | some c => exact .inr ⟨key, c, rfl⟩

theorem filter_events (r : Breakers) (i : Input) :
    (r.events i).filter Event.isTransition = r.events i := by
  obtain hnone | ⟨key, c, hone⟩ := events_single (r := r) i
  · rw [hnone]
    rfl
  · rw [hone]
    rfl

theorem filterMap_change? (key other : Key) (change : Option Transition) :
    (change.toList.map (Event.transition other)).filterMap (Event.change? key) =
      if other = key then change.toList else [] := by
  cases change with
  | none => simp
  | some c => by_cases hk : other = key <;> simp [Event.change?, hk]

theorem changes_of_passed_by (hi : ∀ entry j, r.reached? i ≠ some (key, entry, j)) :
    (r.events i).filterMap (Event.change? key) = [] := by
  cases hr : r.reached? i with
  | some reached =>
    obtain ⟨other, old, j⟩ := reached
    have hne : other ≠ key := by
      intro hk
      exact hi old j (hk ▸ hr)
    rw [events_of_reached hr, filterMap_change?, if_neg hne]
  | none =>
    rw [events_of_unreached hr]
    rfl

theorem changes_of_reached (hi : r.reached? i = some (key, entry, j)) :
    (r.events i).filterMap (Event.change? key) = (entry.breaker.step j).1.change.toList := by
  rw [events_of_reached hi, filterMap_change?, if_pos rfl]

theorem mem_events_iff {c : Transition} :
    .transition key c ∈ r.events i ↔ c ∈ (r.events i).filterMap (Event.change? key) := by
  rw [List.mem_filterMap]
  constructor
  · intro hm
    exact ⟨_, hm, if_pos rfl⟩
  · rintro ⟨e, hm, hc⟩
    cases e with
    | transition other change =>
      simp only [Event.change?, Option.ite_none_right_eq_some, Option.some.injEq] at hc
      obtain ⟨rfl, rfl⟩ := hc
      exact hm
    | rejected | outcome => cases hc

/-- What becomes of the breaker of a key, and the changes that are told of it. -/
inductive Fate (key : Key) (r r' : Breakers) : List Transition → Prop
  | served {entry entry' turn} (before : r.entry? key = some entry)
      (after : r'.entry? key = some entry')
      (step : Breaker.Step entry.breaker turn entry'.breaker) :
      Fate key r r' turn.change.toList
  | made {entry' t now turn} (before : r.entry? key = none) (after : r'.entry? key = some entry')
      (step : Breaker.Step (.fresh t now) turn entry'.breaker) (quiet : turn.change = none) :
      Fate key r r' []
  | spared (same : r'.entry? key = r.entry? key) : Fate key r r' []
  | evicted (gone : r'.entry? key = none) : Fate key r r' []

theorem fate (hd : r.registry.Distinct) (i : Input) (key : Key) :
    Fate key r (r.after i) ((r.events i).filterMap (Event.change? key)) := by
  by_cases hi : ∃ entry j, r.reached? i = some (key, entry, j)
  · obtain ⟨entry, j, hi⟩ := hi
    obtain ⟨entry', hself, -, hb, -⟩ := entries_of_reached hi
    have hs := Breaker.step_spec entry.breaker j
    rw [← hb] at hs
    rw [changes_of_reached hi]
    obtain hold | ⟨hnone, t, now, rfl, rfl, rfl⟩ := entry?_of_reached hi
    · exact .served hold hself hs
    · -- A new breaker is closed and lets the request pass.
      exact .made hnone hself hs rfl
  · have hpassed : ∀ entry j, r.reached? i ≠ some (key, entry, j) := by
      intro entry j hr
      exact hi ⟨entry, j, hr⟩
    rw [changes_of_passed_by hpassed]
    cases he : entry? (r.after i) key with
    | none => exact .evicted he
    | some entry => exact .spared (he.trans (entry?_of_passed_by hd hpassed he).symm)

theorem Fate.changed_iff {r' : Breakers} {told : List Transition} (hf : Fate key r r' told)
    (c : Transition) : Changed r r' key c ↔ c ∈ told := by
  cases hf with
  | @served entry entry' turn before after step =>
    rw [Option.mem_toList]
    constructor
    · rintro ⟨b, b', hb, hb', hne, rfl⟩
      rw [breaker?, before] at hb
      rw [breaker?, after] at hb'
      cases hb
      cases hb'
      -- A change of state begins an epoch, and nothing else does.
      cases hc : turn.change with
      | none =>
        obtain ⟨hstate, hepoch, -⟩ := step.quiet hc
        exact absurd ⟨hstate, hepoch⟩ hne
      | some c =>
        obtain ⟨hsource, hstate, -⟩ := step.moved hc
        rw [hstate, ← hsource]
    · intro hc
      obtain ⟨hsource, hstate, hepoch, -⟩ := step.moved hc
      refine ⟨entry.breaker, entry'.breaker, ?_, ?_, ?_, ?_⟩
      · rw [breaker?, before, Option.map_some]
      · rw [breaker?, after, Option.map_some]
      · rw [hepoch]
        exact fun h => Nat.succ_ne_self _ h.2
      · rw [hstate, ← hsource]
  | made before after =>
    refine iff_of_false ?_ List.not_mem_nil
    rintro ⟨b, b', hb, -⟩
    rw [breaker?, before] at hb
    cases hb
  | spared same =>
    refine iff_of_false ?_ List.not_mem_nil
    rintro ⟨b, b', hb, hb', hne, -⟩
    rw [breaker?, same, ← breaker?, hb] at hb'
    cases hb'
    exact hne ⟨rfl, rfl⟩
  | evicted gone =>
    refine iff_of_false ?_ List.not_mem_nil
    rintro ⟨b, b', -, hb', -⟩
    rw [breaker?, gone] at hb'
    cases hb'

/-- What has been told of a key is the story of its breaker, if it has one. -/
structure Accounts (key : Key) (told : List Transition) (r : Breakers) : Prop where
  absent : r.entry? key = none → told = []
  present : ∀ entry, r.entry? key = some entry → entry.breaker.Story told

theorem accounts_empty (key : Key) : Accounts key [] empty where
  absent _ := rfl
  present _ he := nomatch he

theorem Accounts.next {r' : Breakers} {told new : List Transition} (ha : Accounts key told r)
    (hf : Fate key r r' new) :
    Accounts key (if r'.entry? key = none then [] else told ++ new) r' where
  absent he := if_pos he
  present := by
    intro entry he
    have hne : r'.entry? key ≠ none := by
      rw [he]
      exact Option.some_ne_none entry
    rw [if_neg hne]
    cases hf with
    | served before after step =>
      cases he.symm.trans after
      exact (ha.present _ before).step step
    | made before after step quiet =>
      cases he.symm.trans after
      have hst := (Breaker.story_fresh _ _).step step
      rw [quiet] at hst
      rw [ha.absent before]
      exact hst
    | spared same =>
      rw [List.append_nil]
      exact ha.present entry (same.symm.trans he)
    | evicted gone => exact absurd gone hne

theorem accounts_run (key : Key) (is : List Input) :
    Accounts key (tale key [] empty is) (empty.run is) := by
  induction is using List.reverseRecOn with
  | nil => exact accounts_empty key
  | append_singleton is i ih =>
    rw [tale_append, run_append]
    exact ih.next (fate (chronicle_run is).distinct i key)

/-- In every run of a registry, what has been told of a key since its breaker was made leads from
closed to the state of this breaker, by as many changes as it has had epochs; of a key without a
breaker nothing is told. Each input tells one change or none, and it tells a change of a key if and
only if it makes one; a permit that is dropped makes none. -/
theorem events_tell_the_story (is : List Input) :
    let r := empty.run is
    (∀ key, (r.state? key = none → tale key [] empty is = []) ∧
      ∀ b, r.breaker? key = some b → b.Story (tale key [] empty is)) ∧
    (∀ i, (r.events i = [] ∨ ∃ key c, r.events i = [.transition key c]) ∧
      ∀ key c, .transition key c ∈ r.events i ↔ Changed r (r.after i) key c) ∧
    ∀ permit now key c, ¬ Changed r (r.drop permit now) key c := by
  intro r
  have hd : r.registry.Distinct := (chronicle_run is).distinct
  have htold : ∀ i key c, .transition key c ∈ r.events i ↔ Changed r (r.after i) key c := by
    intro i key c
    rw [mem_events_iff, (fate hd i key).changed_iff]
  refine ⟨?_, ?_, ?_⟩
  · intro key
    have ha := accounts_run key is
    constructor
    · intro hs
      exact ha.absent (Option.map_eq_none_iff.1 (Option.map_eq_none_iff.1 hs))
    · intro b hb
      obtain ⟨entry, he, rfl⟩ := Option.map_eq_some_iff.1 hb
      exact ha.present entry he
  · intro i
    exact ⟨events_single i, htold i⟩
  · intro permit now key c hc
    exact List.not_mem_nil ((htold (.drop permit now) key c).2 hc)

/-- The breaker of one key opens and lets a probe pass, and that of the other one stays closed. -/
example :
    let t := { Thresholds.standard with minimumCalls := 1, cooldownMs := 1 }
    let is := [Input.acquire ⟨"a"⟩ t 0, .acquire ⟨"b"⟩ t 1, .record ⟨"a"⟩ ⟨0, 0⟩ .failure 1 2,
      .record ⟨"b"⟩ ⟨0, 0⟩ .success 1 3, .acquire ⟨"a"⟩ t 1000002]
    tale ⟨"a"⟩ [] empty is = [⟨.closed, .open⟩, ⟨.open, .halfOpen⟩] ∧ tale ⟨"b"⟩ [] empty is = [] := by
  decide +kernel

end Breakers
end Turnstile
