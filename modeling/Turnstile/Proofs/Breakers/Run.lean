import Turnstile.Breaker.Registry
import Turnstile.Proofs.Breaker.Tickets
import Turnstile.Proofs.Registry
import Mathlib.Data.List.DropRight
/-!
Runs of a registry of breakers. An input reaches the breaker of one key, or sweeps them all. The life
of a key is what its breaker has answered since it was made, and each breaker of a registry is a new
one that has had just the inputs of this life.
-/
namespace Turnstile.Breakers

inductive Input where
  | acquire (key : Key) (t : Thresholds) (now : Instant)
  | complete (permit : BreakerPermit) (outcome : Outcome) (elapsed : Span) (now : Instant)
  | drop (permit : BreakerPermit) (now : Instant)
  | record (key : Key) (ticket : Ticket) (outcome : Outcome) (elapsed : Span) (now : Instant)
  | sweep (now : Instant) (retention : Retention)

/-- What came of an input: an answer of the breaker of some key, or the loss of some keys. -/
inductive Turn where
  | served (key : Key) (turn : Breaker.Turn)
  | evicted (keys : List Key)

def after (r : Breakers) : Input → Breakers
  | .acquire key t now => (r.acquire key t now).2.2
  | .complete permit outcome elapsed now => (r.complete permit outcome elapsed now).2.2
  | .drop permit now => r.drop permit now
  | .record key ticket outcome elapsed now =>
    (r.recordOutcome key ticket outcome elapsed now).2.2
  | .sweep now retention => (r.sweep now retention).1

/-- The key and the entry that an input reaches, and what the breaker there is given. -/
def reached? (r : Breakers) : Input → Option (Key × BreakerEntry × Breaker.Input)
  | .acquire key t now => some (key, (r.entryFor key t now).1, .acquire t now)
  | .complete permit outcome elapsed now =>
    (r.holder? permit).map (permit.key, ·, .record permit.ticket outcome elapsed now)
  | .drop permit now =>
    (r.holder? permit).map (permit.key, ·, .record permit.ticket .ignored 0 now)
  | .record key ticket outcome elapsed now =>
    (r.entry? key).map (key, ·, .record ticket outcome elapsed now)
  | .sweep .. => none

def lost (r left : Breakers) : List Key :=
  (r.registry.entries.map (·.1)).filter fun key => !left.registry.contains key

def turns (r : Breakers) : Input → List Turn
  | .sweep now retention => [.evicted (r.lost (r.sweep now retention).1)]
  | i => (r.reached? i).toList.map fun (key, entry, j) => .served key (entry.breaker.step j).1

def run (r : Breakers) : List Input → Breakers
  | [] => r
  | i :: is => run (r.after i) is

def history (r : Breakers) : List Input → List Turn
  | [] => []
  | i :: is => r.turns i ++ history (r.after i) is

theorem run_append (r : Breakers) (is js : List Input) :
    r.run (is ++ js) = (r.run is).run js := by
  induction is generalizing r with
  | nil => rfl
  | cons i is ih => exact ih (r.after i)

theorem history_append (r : Breakers) (is js : List Input) :
    r.history (is ++ js) = r.history is ++ (r.run is).history js := by
  induction is generalizing r with
  | nil => rfl
  | cons i is ih => simp only [List.cons_append, history, run, ih, List.append_assoc]

def Turn.of? (key : Key) : Turn → Option Breaker.Turn
  | .served k turn => if k = key then some turn else none
  | .evicted _ => none

def Turn.ends (key : Key) : Turn → Bool
  | .served .. => false
  | .evicted keys => keys.contains key

/-- What the breaker of a key has answered since it was made. -/
def life (key : Key) (h : List Turn) : List Breaker.Turn :=
  (h.rtakeWhile (!·.ends key)).filterMap (Turn.of? key)

theorem life_snoc (key : Key) (h : List Turn) (turn : Turn) :
    life key (h ++ [turn]) =
      if turn.ends key then [] else life key h ++ (turn.of? key).toList := by
  unfold life
  rw [List.rtakeWhile_concat]
  cases he : turn.ends key with
  | true => rfl
  | false => cases ho : turn.of? key <;> simp [List.filterMap_append, ho]

variable {r : Breakers} {h : List Turn} {key : Key} {entry : BreakerEntry}

theorem entry?_eq_get? (r : Breakers) (key : Key) : r.entry? key = r.registry.get? key := rfl

theorem entry?_set_self (r : Breakers) (key : Key) (entry : BreakerEntry) :
    entry? (r.set key entry) key = some entry :=
  Registry.get?_insert_self _ _ _

theorem entry?_set_of_ne (r : Breakers) (entry : BreakerEntry) {other : Key}
    (hne : other ≠ key) : entry? (r.set key entry) other = r.entry? other :=
  Registry.get?_insert_of_ne _ _ hne

theorem registry_entryFor (r : Breakers) (key : Key) (t : Thresholds) (now : Instant) :
    (r.entryFor key t now).2.registry = r.registry := by
  unfold entryFor
  split <;> rfl

theorem entryFor_eq_of_some (he : r.entry? key = some entry) (t : Thresholds) (now : Instant) :
    r.entryFor key t now = (entry, r) := by
  rw [entryFor, he]

theorem entryFor_eq_of_none (he : r.entry? key = none) (t : Thresholds) (now : Instant) :
    r.entryFor key t now =
      (⟨.fresh t now, r.nextSerial, 0⟩, { r with nextSerial := r.nextSerial + 1 }) := by
  rw [entryFor, he]

theorem holder?_eq_some {permit : BreakerPermit} :
    r.holder? permit = some entry ↔
      r.entry? permit.key = some entry ∧ entry.serial = permit.serial := by
  simp [holder?, Option.filter_eq_some_iff]

theorem after_of_reached {i : Input} {j : Breaker.Input}
    (hi : r.reached? i = some (key, entry, j)) :
    ∃ entry', (r.after i).registry = r.registry.insert key entry' ∧
      entry'.breaker = (entry.breaker.step j).2 ∧ entry'.serial = entry.serial := by
  cases i with
  | acquire k t now =>
    cases hi
    simp only [after, acquire]
    split <;>
      exact ⟨_, congrArg (Registry.insert · key _) (registry_entryFor r key t now), rfl, rfl⟩
  | complete permit outcome elapsed now =>
    obtain ⟨e, he, heq⟩ := Option.map_eq_some_iff.1 hi
    cases heq
    simp only [after, complete, he]
    exact ⟨_, rfl, rfl, rfl⟩
  | drop permit now =>
    obtain ⟨e, he, heq⟩ := Option.map_eq_some_iff.1 hi
    cases heq
    simp only [after, drop, he]
    exact ⟨_, rfl, rfl, rfl⟩
  | record k ticket outcome elapsed now =>
    obtain ⟨e, he, heq⟩ := Option.map_eq_some_iff.1 hi
    cases heq
    simp only [after, recordOutcome, he]
    exact ⟨_, rfl, rfl, rfl⟩
  | sweep => cases hi

theorem entries_of_reached {i : Input} {j : Breaker.Input}
    (hi : r.reached? i = some (key, entry, j)) :
    ∃ entry', entry? (r.after i) key = some entry' ∧
      (∀ other, other ≠ key → entry? (r.after i) other = r.entry? other) ∧
      entry'.breaker = (entry.breaker.step j).2 ∧ entry'.serial = entry.serial := by
  obtain ⟨entry', hr, hb, hs⟩ := after_of_reached hi
  refine ⟨entry', ?_, ?_, hb, hs⟩
  · rw [entry?_eq_get?, hr]
    exact Registry.get?_insert_self _ _ _
  · intro other hne
    rw [entry?_eq_get?, hr]
    exact Registry.get?_insert_of_ne _ _ hne

theorem after_of_unreached {i : Input} (hi : r.reached? i = none)
    (hs : ∀ now retention, i ≠ .sweep now retention) : r.after i = r ∧ r.turns i = [] := by
  cases i with
  | acquire => cases hi
  | complete permit => simp_all [after, complete, turns, reached?]
  | drop permit => simp_all [after, drop, turns, reached?]
  | record key => simp_all [after, recordOutcome, turns, reached?]
  | sweep now retention => exact absurd rfl (hs now retention)

theorem turns_of_reached {i : Input} {j : Breaker.Input}
    (hi : r.reached? i = some (key, entry, j)) :
    r.turns i = [.served key (entry.breaker.step j).1] := by
  cases i with
  | sweep => cases hi
  | _ => simp only [turns, hi, Option.toList_some, List.map_cons, List.map_nil]

theorem entry?_of_reached {i : Input} {j : Breaker.Input}
    (hi : r.reached? i = some (key, entry, j)) :
    r.entry? key = some entry ∨
      r.entry? key = none ∧ ∃ t now, i = .acquire key t now ∧ j = .acquire t now ∧
        entry = ⟨.fresh t now, r.nextSerial, 0⟩ := by
  cases i with
  | acquire k t now =>
    cases hi
    cases he : r.entry? key with
    | none =>
      rw [entryFor_eq_of_none he]
      exact .inr ⟨rfl, t, now, rfl, rfl, rfl⟩
    | some e =>
      rw [entryFor_eq_of_some he]
      exact .inl rfl
  | complete permit | drop permit =>
    obtain ⟨e, he, heq⟩ := Option.map_eq_some_iff.1 hi
    cases heq
    exact .inl (holder?_eq_some.1 he).1
  | record k ticket outcome elapsed now =>
    obtain ⟨e, he, heq⟩ := Option.map_eq_some_iff.1 hi
    cases heq
    exact .inl he
  | sweep => cases hi

theorem entry?_of_after_sweep (hd : r.registry.Distinct) {now : Instant} {retention : Retention}
    (he : entry? (r.sweep now retention).1 key = some entry) : r.entry? key = some entry :=
  hd.get?_of_sweep tracking now retention.idleEviction retention.maxKeys he

theorem entry?_of_passed_by {i : Input} (hd : r.registry.Distinct)
    (hi : ∀ entry j, r.reached? i ≠ some (key, entry, j))
    (he : entry? (r.after i) key = some entry) : r.entry? key = some entry := by
  cases hr : r.reached? i with
  | some reached =>
    obtain ⟨other, old, j⟩ := reached
    obtain ⟨new, -, hothers, -⟩ := entries_of_reached hr
    have hne : key ≠ other := by
      intro hk
      exact hi old j (hk ▸ hr)
    rwa [hothers key hne] at he
  | none =>
    by_cases hs : ∃ now retention, i = .sweep now retention
    · obtain ⟨now, retention, rfl⟩ := hs
      exact entry?_of_after_sweep hd he
    · have ha := (after_of_unreached hr fun now retention h => hs ⟨now, retention, h⟩).1
      rwa [ha] at he

/-- A registry whose breakers are as the lives of their keys say. -/
structure Chronicle (h : List Turn) (r : Breakers) : Prop where
  distinct : r.registry.Distinct
  absent : ∀ key, r.entry? key = none → life key h = []
  present : ∀ key entry, r.entry? key = some entry → ∃ t start is,
    entry.breaker = (Breaker.fresh t start).run is ∧
      life key h = (Breaker.fresh t start).history is

theorem chronicle_empty : Chronicle [] empty where
  distinct := Registry.distinct_empty
  absent _ _ := rfl
  present _ _ he := by cases he

theorem Chronicle.served (hc : Chronicle h r) {i : Input} {j : Breaker.Input}
    (hi : r.reached? i = some (key, entry, j)) :
    Chronicle (h ++ [.served key (entry.breaker.step j).1]) (r.after i) := by
  obtain ⟨entry', hself, hother, hb, -⟩ := entries_of_reached hi
  have hlife : ∀ other, other ≠ key →
      life other (h ++ [.served key (entry.breaker.step j).1]) = life other h := by
    intro other hne
    simp [life_snoc, Turn.ends, Turn.of?, hne.symm]
  have hown : life key (h ++ [.served key (entry.breaker.step j).1]) =
      life key h ++ [(entry.breaker.step j).1] := by
    simp [life_snoc, Turn.ends, Turn.of?]
  refine ⟨?_, fun other ho => ?_, fun other e ho => ?_⟩
  · obtain ⟨new, hr, -⟩ := after_of_reached hi
    rw [hr]
    exact hc.distinct.insert key new
  · by_cases hk : other = key
    · rw [hk, hself] at ho
      cases ho
    · rw [hlife other hk]
      exact hc.absent other (hother other hk ▸ ho)
  · by_cases hk : other = key
    · subst hk
      cases hself.symm.trans ho
      rw [hown, hb]
      rcases entry?_of_reached hi with he | ⟨he, t, now, rfl, rfl, rfl⟩
      · obtain ⟨t, start, is, hrun, hl⟩ := hc.present other entry he
        refine ⟨t, start, is ++ [j], ?_, ?_⟩
        · rw [Breaker.run_append, ← hrun]
          rfl
        · rw [Breaker.history_append, ← hl, ← hrun]
          rfl
      · refine ⟨t, now, [.acquire t now], ?_, ?_⟩
        · rfl
        · rw [hc.absent other he]
          rfl
    · rw [hlife other hk]
      exact hc.present other e (hother other hk ▸ ho)

theorem Chronicle.swept (hc : Chronicle h r) (now : Instant) (retention : Retention) :
    Chronicle (h ++ r.turns (.sweep now retention)) (r.sweep now retention).1 where
  distinct := hc.distinct.sweep tracking now retention.idleEviction retention.maxKeys
  absent key he := by
    rw [turns, life_snoc]
    cases hb : r.entry? key with
    | none =>
      rw [hc.absent key hb]
      simp [Turn.of?]
    | some entry =>
      have hm : key ∈ r.lost (r.sweep now retention).1 := by
        refine List.mem_filter.2 ⟨List.mem_map_of_mem (Registry.mem_of_get? hb), ?_⟩
        simp only [Registry.contains, Bool.not_eq_true', Option.isSome_eq_false_iff,
          Option.isNone_iff_eq_none]
        exact he
      simp [Turn.ends, hm]
  present key entry he := by
    have hm : key ∉ r.lost (r.sweep now retention).1 := by
      intro hm
      have hn := (List.mem_filter.1 hm).2
      rw [Registry.contains, ← entry?_eq_get?, he] at hn
      cases hn
    have hlife : life key (h ++ r.turns (.sweep now retention)) = life key h := by
      simp [turns, life_snoc, Turn.ends, Turn.of?, hm]
    rw [hlife]
    exact hc.present key entry (entry?_of_after_sweep hc.distinct he)

theorem Chronicle.step (hc : Chronicle h r) (i : Input) :
    Chronicle (h ++ r.turns i) (r.after i) := by
  cases hi : r.reached? i with
  | some reached =>
    obtain ⟨key, entry, j⟩ := reached
    rw [turns_of_reached hi]
    exact hc.served hi
  | none =>
    by_cases hs : ∃ now retention, i = .sweep now retention
    · obtain ⟨now, retention, rfl⟩ := hs
      exact hc.swept now retention
    · obtain ⟨ha, ht⟩ := after_of_unreached hi fun now retention he => hs ⟨now, retention, he⟩
      rw [ha, ht, List.append_nil]
      exact hc

theorem chronicle_run (is : List Input) : Chronicle (empty.history is) (empty.run is) := by
  induction is using List.reverseRecOn with
  | nil => exact chronicle_empty
  | append_singleton is i ih =>
    rw [history_append, run_append, history, history, List.append_nil]
    exact ih.step i

theorem Chronicle.ledger (hc : Chronicle h r) (he : r.entry? key = some entry) :
    Breaker.Ledger (life key h) entry.breaker ∧ entry.breaker.Shape := by
  obtain ⟨t, start, is, hb, hl⟩ := hc.present key entry he
  rw [hb, hl]
  exact ⟨Breaker.ledger_run t start is, Breaker.shape_run t start is⟩

/-- A registry of breakers that some history accounts for. -/
def Lawful (r : Breakers) : Prop := ∃ h, Chronicle h r

theorem Lawful.after (hr : r.Lawful) (i : Input) : (r.after i).Lawful := by
  obtain ⟨h, hh⟩ := hr
  exact ⟨_, hh.step i⟩

theorem Lawful.shape (hr : r.Lawful) (he : r.entry? key = some entry) : entry.breaker.Shape := by
  obtain ⟨h, hh⟩ := hr
  exact (hh.ledger he).2

end Turnstile.Breakers
