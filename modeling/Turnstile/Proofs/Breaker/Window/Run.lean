import Turnstile.Proofs.Breaker.Window
import Mathlib.Data.List.Induction
import Mathlib.Data.Nat.PSub
/-!
Runs of one window. Whatever is added to it, however often its size is changed and whenever it is
cleared, it holds the most recent of the samples added since it was cleared. How many these are is
told by the sizes alone (`Extent`), and no count ever falls below zero (`run?`).
-/
namespace Turnstile.Window

inductive Input where
  | push (s : Sample)
  | resize (size : Nat)
  | clear
  deriving DecidableEq

def step (w : Window) : Input → Window
  | .push s => w.push s
  | .resize size => w.resize size
  | .clear => w.clear

def run (w : Window) (is : List Input) : Window := is.foldl step w

def Input.addTo (samples : List Sample) : Input → List Sample
  | .push s => s :: samples
  | .resize _ => samples
  | .clear => []

/-- The samples added since the window was cleared, the newest first, whether or not they fit. -/
def added (is : List Input) : List Sample := is.foldl Input.addTo []

structure Extent where
  size : Nat
  kept : Nat
  deriving DecidableEq

namespace Extent

def ofSize (size : Nat) : Extent := ⟨max size 1, 0⟩

def step (e : Extent) : Input → Extent
  | .push _ => { e with kept := min (e.kept + 1) e.size }
  | .resize size => { size := max size 1, kept := min e.kept (max size 1) }
  | .clear => { e with kept := 0 }

def run (e : Extent) (is : List Input) : Extent := is.foldl step e

end Extent

/-- The window is as large as `e` says and holds the newest of `samples`, as many as `e` says. -/
structure Holds (e : Extent) (samples : List Sample) (w : Window) : Prop extends w.Sound where
  size : w.size = e.size
  newest : w.samples = samples.take e.kept
  length : w.samples.length = e.kept

variable {w : Window} {e : Extent} {samples : List Sample}

theorem holds_ofSize (size : Nat) : Holds (.ofSize size) [] (ofSize size) where
  toSound := sound_ofSize size
  size := rfl
  newest := rfl
  length := rfl

theorem Holds.push (hw : Holds e samples w) (s : Sample) :
    Holds (e.step (.push s)) (s :: samples) (w.push s) where
  toSound := hw.toSound.push s
  size := (push_size w s).trans hw.size
  newest := by
    rw [push_samples hw.toSound, hw.newest, hw.size, ← List.take_succ_cons, List.take_take, min_comm]
    rfl
  length := by
    rw [push_samples hw.toSound, List.length_take, List.length_cons, hw.length, hw.size, min_comm]
    rfl

theorem Holds.resize (hw : Holds e samples w) (size : Nat) :
    Holds (e.step (.resize size)) samples (w.resize size) where
  toSound := hw.toSound.resize size
  size := resize_size w size
  newest := by
    rw [resize_samples, hw.newest, List.take_take, min_comm]
    rfl
  length := by
    rw [resize_samples, List.length_take, hw.length, min_comm]
    rfl

theorem Holds.clear (hw : Holds e samples w) : Holds (e.step .clear) [] w.clear where
  toSound := sound_clear hw.room
  size := hw.size
  newest := rfl
  length := rfl

theorem Holds.step (hw : Holds e samples w) (i : Input) :
    Holds (e.step i) (i.addTo samples) (w.step i) := by
  cases i with
  | push s => exact hw.push s
  | resize size => exact hw.resize size
  | clear => exact hw.clear

theorem holds_run (size : Nat) (is : List Input) :
    Holds ((Extent.ofSize size).run is) (added is) ((ofSize size).run is) := by
  induction is using List.reverseRecOn with
  | nil => exact holds_ofSize size
  | append_singleton is i ih =>
    simp only [run, Extent.run, added, List.foldl_append, List.foldl_cons, List.foldl_nil] at ih ⊢
    exact ih.step i

/-- Forgets the oldest sample as `dropOldest` does, if the counts allow for it. -/
def dropOldest? (w : Window) : Option Window :=
  match w.samples.getLast? with
  | none => some w
  | some old => do
    let failures ← w.failures.psub old.failure.toNat
    let slow ← w.slow.psub old.slow.toNat
    return { w with samples := w.samples.dropLast, failures, slow }

def dropOldestN? : Nat → Window → Option Window
  | 0, w => some w
  | n + 1, w => w.dropOldest?.bind (dropOldestN? n)

def step? (w : Window) : Input → Option Window
  | .push s => do
    let w ← if w.length = w.size then w.dropOldest? else some w
    return { w with
      samples := s :: w.samples
      failures := w.failures + s.failure.toNat
      slow := w.slow + s.slow.toNat }
  | .resize size => dropOldestN? (w.length - max size 1) { w with size := max size 1 }
  | .clear => some w.clear

def run? (w : Window) (is : List Input) : Option Window := is.foldlM step? w

theorem toNat_le_countP {p : Sample → Bool} {old : Sample} {ss : List Sample} (h : old ∈ ss) :
    (p old).toNat ≤ ss.countP p := by
  cases hp : p old with
  | false => exact Nat.zero_le _
  | true => exact List.countP_pos_iff.2 ⟨old, h, hp⟩

theorem Counted.dropOldest?_eq (hw : w.Counted) : w.dropOldest? = some w.dropOldest := by
  unfold Window.dropOldest? Window.dropOldest
  cases hold : w.samples.getLast? with
  | none => rfl
  | some old =>
    -- The sample that goes is one of those that are counted.
    have hmem : old ∈ w.samples := List.mem_of_getLast? hold
    have hf : old.failure.toNat ≤ w.failures := hw.failures ▸ toNat_le_countP hmem
    have hs : old.slow.toNat ≤ w.slow := hw.slow ▸ toNat_le_countP hmem
    simp only [Nat.psub_eq_sub hf, Nat.psub_eq_sub hs]
    rfl

theorem Counted.dropOldestN?_eq (hw : w.Counted) (n : Nat) :
    w.dropOldestN? n = some (w.dropOldestN n) := by
  induction n generalizing w with
  | zero => rfl
  | succ n ih =>
    rw [Window.dropOldestN?, hw.dropOldest?_eq, Option.bind_some, ih hw.dropOldest]
    rfl

theorem Counted.step?_eq (hw : w.Counted) (i : Input) : w.step? i = some (w.step i) := by
  cases i with
  | push s =>
    simp only [Window.step?, Window.step, Window.push]
    split
    · rw [hw.dropOldest?_eq]
      rfl
    · rfl
  | resize size => exact (hw.sized (max size 1)).dropOldestN?_eq _
  | clear => rfl

theorem run?_eq (size : Nat) (is : List Input) :
    (ofSize size).run? is = some ((ofSize size).run is) := by
  induction is using List.reverseRecOn with
  | nil => rfl
  | append_singleton is i ih =>
    have hw : ((ofSize size).run is).Counted := (holds_run size is).toCounted
    simp only [run?, run, List.foldlM_append, List.foldlM_cons, List.foldlM_nil, bind_pure,
      List.foldl_append, List.foldl_cons, List.foldl_nil] at ih hw ⊢
    rw [ih]
    exact hw.step?_eq i

/-- A window holds the most recent samples since it was cleared, as many as its sizes have left room
for, and counts the failures and the slow calls among them, without ever counting below zero. -/
theorem most_recent_samples (size : Nat) (is : List Input) :
    let w := (ofSize size).run is
    let e := (Extent.ofSize size).run is
    w.size = e.size ∧ w.samples = (added is).take e.kept ∧ w.length = e.kept ∧
      w.failures = w.samples.countP (·.failure) ∧ w.slow = w.samples.countP (·.slow) ∧
      (ofSize size).run? is = some w ∧
      w.length ≤ w.size ∧ w.failures ≤ w.length ∧ w.slow ≤ w.length := by
  intro w e
  have hw : Holds e (added is) w := holds_run size is
  refine ⟨hw.size, hw.newest, hw.length, hw.failures, hw.slow, run?_eq size is, hw.fits, ?_, ?_⟩
  · exact hw.failures ▸ List.countP_le_length
  · exact hw.slow ▸ List.countP_le_length

/-- Growing does not bring back what shrinking has forgotten. -/
example :
    let w := (ofSize 4).run
      [.push ⟨true, false⟩, .push ⟨true, false⟩, .push ⟨false, true⟩, .push ⟨false, false⟩,
        .resize 2, .resize 10]
    w = { size := 10, samples := [⟨false, false⟩, ⟨false, true⟩], failures := 0, slow := 1 } := by
  decide

end Turnstile.Window
