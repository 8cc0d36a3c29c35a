import Turnstile.Proofs.Breakers.Asked
/-!
What a registry of breakers is to one key. The breaker of the key and the number of its holders say how
a call of the key is answered and how its outcome is recorded; the number that the breaker has in its
registry says nothing to anybody.
-/
namespace Turnstile

/-- A permit without the number of the breaker that gave it out, which no caller sees. -/
def BreakerPermit.unnumbered (permit : BreakerPermit) : BreakerPermit := { permit with serial := 0 }

def BreakerAdmission.unnumbered : BreakerAdmission → BreakerAdmission
  | .admitted permit => .admitted permit.unnumbered
  | .rejected state denial => .rejected state denial

def BreakerEntry.face (entry : BreakerEntry) : Breaker × Nat := (entry.breaker, entry.holders)

namespace Breakers

variable {r r' : Breakers} {key : Key} {permit permit' : BreakerPermit}
  {entry entry' : BreakerEntry}

def face? (r : Breakers) (key : Key) : Option (Breaker × Nat) := (r.entry? key).map (·.face)

theorem breaker?_eq_face? (r : Breakers) (key : Key) :
    r.breaker? key = (r.face? key).map (·.1) := by
  cases he : r.entry? key <;> simp [breaker?, face?, he, BreakerEntry.face]

theorem face?_set_self (r : Breakers) (key : Key) (entry : BreakerEntry) :
    (r.set key entry).face? key = some entry.face := by
  simp [face?, entry?_set_self]

theorem entryFor_face (r : Breakers) (key : Key) (t : Thresholds) (now : Instant) :
    (r.entryFor key t now).1.face = (r.face? key).getD (.fresh t now, 0) := by
  cases he : r.entry? key with
  | none => simp [entryFor_eq_of_none he, face?, he, BreakerEntry.face]
  | some entry => simp [entryFor_eq_of_some he, face?, he]

theorem acquire_congr (hf : r.face? key = r'.face? key) (t : Thresholds) (now : Instant) :
    let asked := r.acquire key t now
    let asked' := r'.acquire key t now
    asked.1.unnumbered = asked'.1.unnumbered ∧ asked.2.1 = asked'.2.1 ∧
      asked.2.2.face? key = asked'.2.2.face? key := by
  have he : (r.entryFor key t now).1.face = (r'.entryFor key t now).1.face := by
    simp [entryFor_face, hf]
  simp only [acquire]
  generalize r.entryFor key t now = found at he ⊢
  generalize r'.entryFor key t now = found' at he ⊢
  obtain ⟨⟨breaker, serial, holders⟩, r₁⟩ := found
  obtain ⟨⟨breaker', serial', holders'⟩, r₁'⟩ := found'
  obtain ⟨rfl, rfl⟩ : breaker = breaker' ∧ holders = holders' := by simpa [BreakerEntry.face] using he
  obtain ⟨verdict, change, b, hq⟩ : ∃ verdict change b, breaker.acquire t now = (verdict, change, b) :=
    ⟨_, _, _, rfl⟩
  cases verdict <;>
    simp [hq, face?_set_self, BreakerAdmission.unnumbered, BreakerPermit.unnumbered,
      BreakerEntry.face]

theorem complete_congr (hp : permit.unnumbered = permit'.unnumbered)
    (hh : r.holder? permit = some entry) (hh' : r'.holder? permit' = some entry')
    (hf : entry.face = entry'.face) (outcome : Outcome) (elapsed : Span) (now : Instant) :
    let told := r.complete permit outcome elapsed now
    let told' := r'.complete permit' outcome elapsed now
    told.2.1 = told'.2.1 ∧ told.2.2.face? permit.key = told'.2.2.face? permit.key := by
  obtain ⟨key, serial, ticket, probe⟩ := permit
  obtain ⟨key', serial', ticket', probe'⟩ := permit'
  obtain ⟨breaker, number, holders⟩ := entry
  obtain ⟨breaker', number', holders'⟩ := entry'
  obtain ⟨rfl, rfl, rfl⟩ : key = key' ∧ ticket = ticket' ∧ probe = probe' := by
    simpa [BreakerPermit.unnumbered] using hp
  obtain ⟨rfl, rfl⟩ : breaker = breaker' ∧ holders = holders' := by simpa [BreakerEntry.face] using hf
  simp [complete, hh, hh', report, face?_set_self, BreakerEntry.face]

theorem face?_of_holder? (hh : r.holder? permit = some entry) :
    r.face? permit.key = some entry.face := by
  simp [face?, (holder?_eq_some.1 hh).1]

theorem complete_others (r : Breakers) (permit : BreakerPermit) (outcome : Outcome)
    (elapsed : Span) (now : Instant) (hne : key ≠ permit.key) :
    entry? (r.complete permit outcome elapsed now).2.2 key = r.entry? key := by
  cases hh : r.holder? permit with
  | none => simp [complete, hh]
  | some entry => simp [complete, hh, entry?_set_of_ne r _ hne]

def Gave (r : Breakers) (key : Key) (slot : Option BreakerPermit) : Prop :=
  ∀ permit ∈ slot, permit.key = key ∧ ∃ entry, r.holder? permit = some entry

theorem slot_congr {slot slot' : Option BreakerPermit}
    (hs : slot.map (·.unnumbered) = slot'.map (·.unnumbered)) (hg : r.Gave key slot)
    (hg' : r'.Gave key slot') (hf : r.face? key = r'.face? key) (outcome : Outcome)
    (elapsed : Span) (now : Instant) :
    (slot.elim [] fun permit => Notice.events (r.complete permit outcome elapsed now).2.1) =
        (slot'.elim [] fun permit =>
          Notice.events (r'.complete permit outcome elapsed now).2.1) ∧
      (slot.elim r fun permit => (r.complete permit outcome elapsed now).2.2).face? key =
        (slot'.elim r' fun permit => (r'.complete permit outcome elapsed now).2.2).face? key := by
  cases slot with
  | none =>
    obtain rfl : slot' = none := by simpa using hs.symm
    exact ⟨rfl, hf⟩
  | some permit =>
    obtain ⟨permit', rfl, hp⟩ : ∃ permit', slot' = some permit' ∧
        permit'.unnumbered = permit.unnumbered := by simpa using hs.symm
    obtain ⟨hkey, entry, hh⟩ := hg permit rfl
    obtain ⟨hkey', entry', hh'⟩ := hg' permit' rfl
    have hface : some entry.face = some entry'.face := by
      rw [← face?_of_holder? hh, ← face?_of_holder? hh', hkey, hkey', hf]
    have hc := complete_congr hp.symm hh hh' (Option.some.inj hface) outcome elapsed now
    rw [hkey] at hc
    exact ⟨congrArg Notice.events hc.1, hc.2⟩

theorem gave_of_acquire {t : Thresholds} {now : Instant} {notices : List Notice}
    (ha : r.acquire key t now = (.admitted permit, notices, r')) : r'.Gave key (some permit) := by
  rintro _ ⟨⟩
  simp only [acquire] at ha
  split at ha
  · cases ha
    exact ⟨rfl, _, holder?_eq_some.2 ⟨entry?_set_self _ _ _, rfl⟩⟩
  · cases ha

/-- Every breaker of the one registry is still there in the other. -/
def Stay (r r' : Breakers) : Prop :=
  ∀ key entry, r.entry? key = some entry →
    ∃ entry', r'.entry? key = some entry' ∧ entry'.serial = entry.serial

theorem Stay.refl (r : Breakers) : r.Stay r := fun _ entry he => ⟨entry, he, rfl⟩

theorem Stay.trans {r'' : Breakers} (hs : r.Stay r') (hs' : r'.Stay r'') : r.Stay r'' := by
  intro key entry he
  obtain ⟨entry', he', hserial⟩ := hs key entry he
  obtain ⟨entry'', he'', hserial'⟩ := hs' key entry' he'
  exact ⟨entry'', he'', hserial'.trans hserial⟩

theorem stay_after {i : Input} (hi : ∀ now retention, i ≠ .sweep now retention) :
    r.Stay (r.after i) := by
  intro key entry he
  cases hr : r.reached? i with
  | none =>
    rw [(after_of_unreached hr hi).1]
    exact ⟨entry, he, rfl⟩
  | some reached =>
    obtain ⟨other, old, j⟩ := reached
    obtain ⟨new, hnew, hothers, -, hserial⟩ := entries_of_reached hr
    by_cases hk : key = other
    · subst hk
      obtain hold | ⟨hnone, -⟩ := entry?_of_reached hr
      · cases he.symm.trans hold
        exact ⟨new, hnew, hserial⟩
      · cases he.symm.trans hnone
    · exact ⟨entry, (hothers key hk).trans he, rfl⟩

end Breakers

end Turnstile
