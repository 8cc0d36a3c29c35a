import Turnstile.Proofs.Breakers.Face
import Turnstile.Proofs.Guard.Deeds
/-!
What a guard is to one key: the policies in effect, the bucket and the breaker of the key, and the
events about it. A call of the key that ends is recorded by this facet of the guard alone, and leaves
the same facet behind wherever it finds the same; a call of another key leaves the facet as it is.
-/
namespace Turnstile

def Permit.unnumbered (p : Permit) : Permit :=
  { p with breaker := p.breaker.map (·.unnumbered) }

theorem Permit.unnumbered_eq_iff {p p' : Permit} : p.unnumbered = p'.unnumbered ↔
    p.key = p'.key ∧ p.policy = p'.policy ∧
      p.breaker.map (·.unnumbered) = p'.breaker.map (·.unnumbered) ∧ p.startedAt = p'.startedAt := by
  simp [unnumbered]

/-- A guard as one key sees it. -/
structure Facet (α : Type) where
  snapshot : Snapshot
  bucket : Option (LimiterEntry α)
  circuit : Option (Breaker × Nat)
  events : List Event

namespace Guard

variable {α : Type} {g g' : Guard α} {key other : Key} {p p' : Permit}

def facet (g : Guard α) (key : Key) : Facet α where
  snapshot := g.snapshot
  bucket := g.limiter.get? key
  circuit := g.breakers.face? key
  events := g.events.filter (·.key = key)

theorem facet_congr (hsnapshot : g.snapshot = g'.snapshot)
    (hbucket : g.limiter.get? key = g'.limiter.get? key)
    (hcircuit : g.breakers.face? key = g'.breakers.face? key)
    (hevents : g.events.filter (·.key = key) = g'.events.filter (·.key = key)) :
    g.facet key = g'.facet key := by
  simp [facet, hsnapshot, hbucket, hcircuit, hevents]

theorem snapshot_eq (hf : g.facet key = g'.facet key) : g.snapshot = g'.snapshot :=
  congrArg Facet.snapshot hf

theorem bucket_eq (hf : g.facet key = g'.facet key) :
    g.limiter.get? key = g'.limiter.get? key :=
  congrArg Facet.bucket hf

theorem circuit_eq (hf : g.facet key = g'.facet key) :
    g.breakers.face? key = g'.breakers.face? key :=
  congrArg Facet.circuit hf

theorem keyEvents_eq (hf : g.facet key = g'.facet key) :
    g.events.filter (·.key = key) = g'.events.filter (·.key = key) :=
  congrArg Facet.events hf

theorem report_congr (hf : g.facet key = g'.facet key) (notices : List Notice) :
    (g.report notices).facet key = (g'.report notices).facet key := by
  have hsnapshot := snapshot_eq hf
  have hbucket := bucket_eq hf
  have hcircuit := circuit_eq hf
  refine facet_congr hsnapshot hbucket hcircuit ?_
  rw [events_report, events_report, List.filter_append, List.filter_append, keyEvents_eq hf]

def atInstant (g : Guard α) (now : Instant) : Guard α := { g with now }

theorem advance_congr (hf : g.facet key = g'.facet key) (hn : g.now = g'.now) (span : Span) :
    (g.advance span).facet key = (g'.advance span).facet key ∧
      (g.advance span).now = (g'.advance span).now :=
  ⟨hf, congrArg (· + span) hn⟩

/-- The breaker that let the call of the permit pass is that of its key, and is still there. -/
def Knows (g : Guard α) (p : Permit) : Prop := g.breakers.Gave p.key p.breaker

theorem Knows.stay (hk : g.Knows p) (hs : g.breakers.Stay g'.breakers) : g'.Knows p := by
  intro permit hp
  obtain ⟨hkey, entry, hh⟩ := hk permit hp
  obtain ⟨he, hserial⟩ := Breakers.holder?_eq_some.1 hh
  obtain ⟨entry', he', hsame⟩ := hs _ _ he
  exact ⟨hkey, entry', Breakers.holder?_eq_some.2 ⟨he', hsame.trans hserial⟩⟩

section Complete

variable (status : CallStatus)

theorem stay_complete (g : Guard α) (p : Permit) :
    g.breakers.Stay (g.complete p status).2.breakers := by
  rw [(g.complete_frame p status).2.2.2]
  cases p.breaker with
  | none => exact .refl _
  | some permit =>
    exact Breakers.stay_after (i := .complete permit _ _ _) fun _ _ hi => nomatch hi

theorem facet_complete_of_ne (hk : g.Knows p) (hne : p.key ≠ key) :
    (g.complete p status).2.facet key = g.facet key := by
  obtain ⟨-, hsnapshot, hlimiter, hbreakers⟩ := g.complete_frame p status
  refine facet_congr hsnapshot (by rw [hlimiter]) ?_ ?_
  · rw [hbreakers]
    cases hp : p.breaker with
    | none => rfl
    | some permit =>
      have hkey : key ≠ permit.key := by
        rw [(hk permit hp).1]
        exact hne.symm
      simp [Breakers.face?, Breakers.complete_others _ _ _ _ _ hkey]
  · rw [g.complete_events_eq p status]
    cases hp : p.breaker with
    | none => simp [Event.key, hne]
    | some permit =>
      obtain ⟨changes, hc⟩ := g.breakers.complete_events permit (g.complete p status).1
        (g.now.since p.startedAt) g.now
      simp [hc, Event.key, hne, (hk permit hp).1, List.filter_map, Function.comp_def]

/-- A call that ends is recorded by the facet of its key. -/
theorem complete_congr (hf : g.facet key = g'.facet key) (hn : g.now = g'.now)
    (hp : p.unnumbered = p'.unnumbered) (hk : g.Knows p) (hk' : g'.Knows p') (hkey : p.key = key) :
    (g.complete p status).1 = (g'.complete p' status).1 ∧
      (g.complete p status).2.facet key = (g'.complete p' status).2.facet key := by
  have houtcome : (g.complete p status).1 = (g'.complete p' status).1 := by
    simp [complete_outcome, snapshot_eq hf]
  obtain ⟨hown, -, hslot, hstarted⟩ := Permit.unnumbered_eq_iff.1 hp
  obtain ⟨-, hsnapshot, hlimiter, hbreakers⟩ := g.complete_frame p status
  obtain ⟨-, hsnapshot', hlimiter', hbreakers'⟩ := g'.complete_frame p' status
  have hevents := g.complete_events_eq p status
  have hevents' := g'.complete_events_eq p' status
  rw [Knows, hkey] at hk
  rw [Knows, ← hown, hkey] at hk'
  have hsame := Breakers.slot_congr hslot hk hk' (circuit_eq hf)
    (g.complete p status).1 (g.now.since p.startedAt) g.now
  refine ⟨houtcome, facet_congr ?_ ?_ ?_ ?_⟩
  · rw [hsnapshot, hsnapshot', snapshot_eq hf]
  · rw [hlimiter, hlimiter', bucket_eq hf]
  · rw [hbreakers, hbreakers', ← houtcome, ← hstarted, ← hn]
    exact hsame.2
  · rw [hevents, hevents', ← houtcome, ← hstarted, ← hn, ← hown, hsame.1]
    simp [keyEvents_eq hf]

end Complete

section Endings

variable {β ε : Type} {slot slot' : Option Permit}

def conclude (g : Guard α) (slot : Option Permit) (status : CallStatus) : Guard α :=
  slot.elim g fun p => (g.complete p status).2

/-- The call, if there is one, is one of this key, and the guard knows its permit. -/
def Owns (g : Guard α) (key : Key) (slot : Option Permit) : Prop :=
  ∀ p ∈ slot, p.key = key ∧ g.Knows p

theorem Knows.owns (hk : g.Knows p) : g.Owns p.key (some p) := by
  rintro q ⟨⟩
  exact ⟨rfl, hk⟩

theorem Owns.stay (ho : g.Owns key slot) (hs : g.breakers.Stay g'.breakers) :
    g'.Owns key slot :=
  fun p hp => ⟨(ho p hp).1, (ho p hp).2.stay hs⟩

theorem conclude_congr (hs : slot.map (·.unnumbered) = slot'.map (·.unnumbered))
    (ho : g.Owns key slot) (ho' : g'.Owns key slot') (hf : g.facet key = g'.facet key)
    (hn : g.now = g'.now) (status : CallStatus) :
    (g.conclude slot status).facet key = (g'.conclude slot' status).facet key := by
  cases slot with
  | none =>
    obtain rfl : slot' = none := by simpa using hs.symm
    exact hf
  | some p =>
    obtain ⟨p', rfl, hp⟩ : ∃ p', slot' = some p' ∧ p'.unnumbered = p.unnumbered := by
      simpa using hs.symm
    obtain ⟨hkey, hk⟩ := ho p rfl
    exact (complete_congr status hf hn hp.symm hk (ho' p' rfl).2 hkey).2

theorem Ends.facet {after : Option Permit} (he : Ends g slot after g') (ho : g.Owns key slot)
    (hne : key ≠ other) : g'.facet other = g.facet other := by
  cases he with
  | kept => rfl
  | reported p status =>
    obtain ⟨rfl, hk⟩ := ho p rfl
    exact facet_complete_of_ne status hk hne

theorem Ends.now {after : Option Permit} (he : Ends g slot after g') : g'.now = g.now := by
  cases he with
  | kept => rfl
  | reported p status => exact (g.complete_frame p status).1

theorem Ends.stay {after : Option Permit} (he : Ends g slot after g') :
    g.breakers.Stay g'.breakers := by
  cases he with
  | kept => exact .refl _
  | reported p status => exact stay_complete status g p

theorem facet_conclude_of_ne (ho : g.Owns key slot) (hne : key ≠ other) (status : CallStatus) :
    (g.conclude slot status).facet other = g.facet other := by
  cases slot with
  | none => rfl
  | some p => exact (Ends.reported p status).facet ho hne

theorem settle_congr [CallFault ε] (hf : g.facet key = g'.facet key) (hn : g.now = g'.now)
    (hp : p.unnumbered = p'.unnumbered) (hk : g.Knows p) (hk' : g'.Knows p') (hkey : p.key = key)
    (ending : Ending (Except ε β)) :
    (g.settle p ending).1 = (g'.settle p' ending).1 ∧
      (g.settle p ending).2.facet key = (g'.settle p' ending).2.facet key := by
  have hc := fun status => (complete_congr status hf hn hp hk hk' hkey).2
  obtain ⟨hown, hpolicy, -⟩ := Permit.unnumbered_eq_iff.1 hp
  cases ending with
  | finished result => cases result <;> exact ⟨rfl, hc _⟩
  | overdue => exact ⟨by simp [settle, hown, hpolicy], hc _⟩
  | abandoned => exact ⟨rfl, hc _⟩

end Endings

end Guard

namespace GuardedStream

variable {α β ε : Type} {g g' : Guard α} {key : Key} {s s' : GuardedStream β ε}

def unnumbered (s : GuardedStream β ε) : GuardedStream β ε :=
  { s with permit := s.permit.map (·.unnumbered) }

theorem unnumbered_eq_iff : s.unnumbered = s'.unnumbered ↔
    s.key = s'.key ∧ s.items = s'.items ∧
      s.permit.map (·.unnumbered) = s'.permit.map (·.unnumbered) := by
  simp [unnumbered]

theorem finish_eq (s : GuardedStream β ε) (status : CallStatus) (g : Guard α) :
    s.finish status g = ({ s with permit := none }, g.conclude s.permit status) := by
  obtain ⟨key, items, permit⟩ := s
  cases permit <;> rfl

theorem drop_eq (s : GuardedStream β ε) (g : Guard α) :
    s.drop g = g.conclude s.permit .cancelled := by
  obtain ⟨key, items, permit⟩ := s
  cases permit <;> rfl

theorem poll_congr [CallFault ε] (hs : s.unnumbered = s'.unnumbered) (ho : g.Owns key s.permit)
    (ho' : g'.Owns key s'.permit) (hf : g.facet key = g'.facet key) (hn : g.now = g'.now) :
    (s.poll g).1 = (s'.poll g').1 ∧
      (s.poll g).2.1.unnumbered = (s'.poll g').2.1.unnumbered ∧
      (s.poll g).2.2.facet key = (s'.poll g').2.2.facet key := by
  obtain ⟨hkey, hitems, hpermit⟩ := unnumbered_eq_iff.1 hs
  have hc := fun status => Guard.conclude_congr hpermit ho ho' hf hn status
  simp only [poll, ← hitems]
  cases s.items with
  | nil => simp [finish_eq, hc, unnumbered, hkey, hitems]
  | cons item rest => cases item <;> simp [finish_eq, hc, unnumbered, hkey, hpermit, hf]

end GuardedStream

namespace Body

variable {α : Type} {g g' : Guard α} {key : Key} {b b' : Body}

def unnumbered (b : Body) : Body := { b with permit := b.permit.map (·.unnumbered) }

theorem unnumbered_eq_iff : b.unnumbered = b'.unnumbered ↔
    b.key = b'.key ∧ b.frames = b'.frames ∧
      b.permit.map (·.unnumbered) = b'.permit.map (·.unnumbered) := by
  simp [unnumbered]

theorem finish_eq (b : Body) (status : CallStatus) (g : Guard α) :
    b.finish status g = ({ b with permit := none }, g.conclude b.permit status) := by
  obtain ⟨key, frames, permit⟩ := b
  cases permit <;> rfl

theorem drop_eq (b : Body) (g : Guard α) : b.drop g = g.conclude b.permit .cancelled := by
  obtain ⟨key, frames, permit⟩ := b
  cases permit <;> rfl

theorem poll_congr (hb : b.unnumbered = b'.unnumbered) (ho : g.Owns key b.permit)
    (ho' : g'.Owns key b'.permit) (hf : g.facet key = g'.facet key) (hn : g.now = g'.now) :
    (b.poll g).1 = (b'.poll g').1 ∧
      (b.poll g).2.1.unnumbered = (b'.poll g').2.1.unnumbered ∧
      (b.poll g).2.2.facet key = (b'.poll g').2.2.facet key := by
  obtain ⟨hkey, hframes, hpermit⟩ := unnumbered_eq_iff.1 hb
  have hc := fun status => Guard.conclude_congr hpermit ho ho' hf hn status
  simp only [poll, ← hframes]
  cases b.frames with
  | nil => simp [finish_eq, hc, unnumbered, hkey, hframes]
  | cons f rest =>
    cases hs : f.finalStatus? <;> simp [hs, finish_eq, hc, unnumbered, hkey, hpermit, hf]

end Body

def ExchangeResult.unnumbered : ExchangeResult → ExchangeResult
  | .response head body => .response head body.unnumbered
  | .failure f => .failure f
  | .abandoned => .abandoned

namespace Guard

variable {α : Type} {g g' : Guard α} {key other : Key} {p p' : Permit}

theorem respond_congr (hf : g.facet key = g'.facet key) (hn : g.now = g'.now)
    (hp : p.unnumbered = p'.unnumbered) (hk : g.Knows p) (hk' : g'.Knows p') (hkey : p.key = key)
    (ending : Ending (Except Failure Response)) :
    (g.respond p ending).1.unnumbered = (g'.respond p' ending).1.unnumbered ∧
      (g.respond p ending).2.facet key = (g'.respond p' ending).2.facet key := by
  have hc := fun status => (complete_congr status hf hn hp hk hk' hkey).2
  obtain ⟨hown, hpolicy, -⟩ := Permit.unnumbered_eq_iff.1 hp
  cases ending with
  | finished result =>
    cases result with
    | error f => exact ⟨rfl, hc _⟩
    | ok r =>
      by_cases hr : r.head.isFinal
      · simp [respond, passOn, hr, hc, ExchangeResult.unnumbered, Body.unnumbered, hown]
      · simp [respond, passOn, hr, hf, ExchangeResult.unnumbered, Body.unnumbered, hown, hp]
  | overdue =>
    refine ⟨?_, hc _⟩
    simp [respond, ExchangeResult.unnumbered, Body.unnumbered, hown, hpolicy]
  | abandoned => exact ⟨rfl, hc _⟩

end Guard

end Turnstile
