import Turnstile.Breaker.Window
import Mathlib.Data.List.Basic
/-!
What a window holds: the most recent samples that fit, with their counts.
-/
namespace Turnstile.Window

structure Counted (w : Window) : Prop where
  failures : w.failures = w.samples.countP (·.failure)
  slow : w.slow = w.samples.countP (·.slow)

/-- A window that counts right and is never overfull. -/
structure Sound (w : Window) : Prop extends Counted w where
  fits : w.samples.length ≤ w.size
  room : 1 ≤ w.size

theorem sound_ofSize (size : Nat) : (ofSize size).Sound :=
  ⟨⟨rfl, rfl⟩, Nat.zero_le _, Nat.le_max_right size 1⟩

theorem sound_clear {w : Window} (room : 1 ≤ w.size) : w.clear.Sound :=
  ⟨⟨rfl, rfl⟩, Nat.zero_le _, room⟩

theorem dropOldest_size (w : Window) : w.dropOldest.size = w.size := by
  unfold dropOldest
  split <;> rfl

theorem dropOldest_samples (w : Window) : w.dropOldest.samples = w.samples.dropLast := by
  unfold dropOldest
  split
  · next h => rw [List.getLast?_eq_none_iff.1 h, List.dropLast_nil]
  · rfl

theorem Counted.dropOldest {w : Window} (hw : w.Counted) : w.dropOldest.Counted := by
  unfold Window.dropOldest
  split
  · exact hw
  · next old h =>
    have hs : w.samples = w.samples.dropLast ++ [old] :=
      (List.dropLast_append_getLast? old h).symm
    have hf := hw.failures
    have hl := hw.slow
    rw [hs, List.countP_append] at hf hl
    constructor
    · cases hb : old.failure <;> simp [hb] at hf ⊢ <;> omega
    · cases hb : old.slow <;> simp [hb] at hl ⊢ <;> omega

theorem dropOldestN_size (n : Nat) (w : Window) : (dropOldestN n w).size = w.size := by
  induction n generalizing w with
  | zero => rfl
  | succ n ih => rw [dropOldestN, ih, dropOldest_size]

theorem dropOldestN_samples (n : Nat) (w : Window) :
    (dropOldestN n w).samples = w.samples.take (w.samples.length - n) := by
  induction n generalizing w with
  | zero => simp [dropOldestN]
  | succ n ih =>
    rw [dropOldestN, ih, dropOldest_samples, List.dropLast_eq_take, List.take_take,
      List.length_take]
    congr 1
    omega

theorem Counted.dropOldestN {w : Window} (hw : w.Counted) (n : Nat) :
    (w.dropOldestN n).Counted := by
  induction n generalizing w with
  | zero => exact hw
  | succ n ih => exact ih hw.dropOldest

theorem Counted.sized {w : Window} (hw : w.Counted) (size : Nat) :
    Counted { w with size := size } := ⟨hw.failures, hw.slow⟩

theorem push_size (w : Window) (s : Sample) : (w.push s).size = w.size := by
  unfold push
  split
  · exact dropOldest_size w
  · rfl

theorem push_samples {w : Window} (hw : w.Sound) (s : Sample) :
    (w.push s).samples = (s :: w.samples).take w.size := by
  have hroom := hw.room
  have hfits := hw.fits
  obtain ⟨k, hk⟩ : ∃ k, w.size = k + 1 := ⟨w.size - 1, by omega⟩
  rw [hk, List.take_succ_cons]
  unfold push
  split
  · next hfull =>
    have hlen : w.samples.length = k + 1 := hfull.trans hk
    simp only [dropOldest_samples, List.dropLast_eq_take, hlen, Nat.add_sub_cancel]
  · next hfree =>
    have hlen : w.samples.length ≤ k := by
      have : w.samples.length ≠ w.size := hfree
      omega
    simp only [List.take_of_length_le hlen]

theorem Counted.push {w : Window} (hw : w.Counted) (s : Sample) : (w.push s).Counted := by
  have key : ∀ v : Window, v.Counted → Counted { v with
      samples := s :: v.samples
      failures := v.failures + s.failure.toNat
      slow := v.slow + s.slow.toNat } := by
    intro v hv
    constructor
    · cases hb : s.failure <;> simp [hb, hv.failures]
    · cases hb : s.slow <;> simp [hb, hv.slow]
  unfold Window.push
  split
  · exact key _ hw.dropOldest
  · exact key _ hw

theorem Sound.push {w : Window} (hw : w.Sound) (s : Sample) : (w.push s).Sound where
  toCounted := hw.toCounted.push s
  fits := by
    rw [push_samples hw, push_size]
    exact List.length_take_le _ _
  room := by
    rw [push_size]
    exact hw.room

theorem resize_size (w : Window) (size : Nat) : (w.resize size).size = max size 1 :=
  dropOldestN_size _ _

theorem resize_samples (w : Window) (size : Nat) :
    (w.resize size).samples = w.samples.take (max size 1) := by
  unfold resize
  rw [dropOldestN_samples]
  dsimp only [length]
  rcases Nat.le_total w.samples.length (max size 1) with h | h
  · rw [Nat.sub_eq_zero_of_le h, Nat.sub_zero, List.take_length, List.take_of_length_le h]
  · rw [Nat.sub_sub_self h]

theorem Sound.resize {w : Window} (hw : w.Sound) (size : Nat) : (w.resize size).Sound where
  toCounted := (hw.toCounted.sized (max size 1)).dropOldestN _
  fits := by
    rw [resize_samples, resize_size]
    exact List.length_take_le _ _
  room := by
    rw [resize_size]
    exact Nat.le_max_right size 1

theorem resize_self {w : Window} (hw : w.Sound) {size : Nat} (hs : w.size = max size 1) :
    w.resize size = w := by
  have hz : w.length - w.size = 0 := Nat.sub_eq_zero_of_le hw.fits
  unfold resize
  dsimp only
  rw [← hs, hz, dropOldestN]

theorem Sound.eq_of_empty {w : Window} (hw : w.Sound) (he : w.samples = []) :
    w = { size := w.size, samples := [], failures := 0, slow := 0 } := by
  have hf := hw.failures
  have hl := hw.slow
  rw [he, List.countP_nil] at hf hl
  obtain ⟨size, samples, failures, slow⟩ := w
  simp only at he hf hl
  rw [he, hf, hl]

end Turnstile.Window
