import Turnstile.Proofs.Session.Places
/-!
Calls that are given up. They are reported as cancelled by their callers, and the classifier in effect
judges this report as it judges any other: a call that is given up leaves no trace but its free slot
if and only if cancellations are among the codes to ignore.
-/
namespace Turnstile

namespace Breaker

def freed (ticket : Ticket) (now : Instant) (b : Breaker) : Breaker :=
  { b with
    lastAccess := now
    inFlight := b.inFlight.filter fun f => ⟨b.epoch, f.number⟩ ≠ ticket }

/-- Recording an ignored outcome frees a slot at most. -/
theorem record_ignored_eq (ticket : Ticket) (elapsed : Span) (now : Instant) (b : Breaker) :
    (b.record ticket .ignored elapsed now).2 = (none, b.freed ticket now) := by
  rw [record_eq]
  cases hk : b.outstanding? ticket with
  | none =>
    have hf : b.inFlight.filter (fun f => (⟨b.epoch, f.number⟩ : Ticket) ≠ ticket) = b.inFlight := by
      refine List.filter_eq_self.2 fun f hf => decide_eq_true fun he => ?_
      rw [← he, outstanding?, if_pos rfl, List.find?_eq_none] at hk
      exact hk f hf (beq_self_eq_true f.number)
    simp only [freed, hf]
  | some call =>
    have he : ticket.epoch = b.epoch := epoch_of_outstanding hk
    have hf : b.freed ticket now = b.settled ticket now := by
      obtain ⟨epoch, number⟩ := ticket
      cases he
      unfold freed settled
      congr 1
      refine List.filter_congr fun f _ => ?_
      by_cases hn : f.number = number <;> simp [hn]
    simp only [hf, count_eq]

end Breaker

namespace Breakers

variable {r : Breakers} {permit : BreakerPermit} {entry : BreakerEntry}

theorem complete_ignored (hh : r.holder? permit = some entry) (elapsed : Span) (now : Instant) :
    let done := (r.complete permit .ignored elapsed now).2
    Notice.events done.1 = [] ∧
      done.2 = r.set permit.key
        { entry with
          breaker := entry.breaker.freed permit.ticket now
          holders := entry.holders - 1 } := by
  have hrec := entry.breaker.record_ignored_eq permit.ticket elapsed now
  have hev := report_events permit.key permit.ticket .ignored elapsed now entry
  simp only [complete, hh, hev]
  rw [hrec]
  refine ⟨rfl, ?_⟩
  simp only [report, hrec]

end Breakers

namespace Guard

variable {α : Type} {g : Guard α} {p : Permit}

/-- From `g` to `g'` the call of a permit has gone without a trace: its slot is free, and the outcome
is told as ignored. -/
structure Vanished (g : Guard α) (p : Permit) (g' : Guard α) : Prop where
  now : g'.now = g.now
  snapshot : g'.snapshot = g.snapshot
  limiter : g'.limiter = g.limiter
  events : g'.events = g.events ++ [.outcome p.key .ignored]
  own : ∀ permit, p.breaker = some permit → ∃ entry, g.breakers.entry? p.key = some entry ∧
    g'.breakers.entry? p.key = some
      { entry with
        breaker := entry.breaker.freed permit.ticket g.now
        holders := entry.holders - 1 }
  others : ∀ key, (p.breaker = none ∨ key ≠ p.key) →
    g'.breakers.entry? key = g.breakers.entry? key

theorem classify_cancelled (c : Classifier) :
    c.classify .cancelled =
      if .cancelled ∈ c.ignoredCodes then .ignored
      else if .cancelled ∈ c.failureCodes then .failure else .success := by
  unfold Classifier.classify CallStatus.cancelled CallStatus.ofCaller
  by_cases hi : Code.cancelled ∈ c.ignoredCodes <;> simp [hi]

theorem vanished_of_complete {rest : Multiset Permit} {status : CallStatus}
    (hc : Custody.Sound ⟨g, p ::ₘ rest⟩)
    (hi : g.snapshot.classifier.classify status = .ignored) :
    Vanished g p (g.complete p status).2 := by
  have ho : (g.complete p status).1 = .ignored := hi
  obtain ⟨hnow, hsnapshot, hlimiter, hbreakers⟩ := g.complete_frame p status
  have hevents := g.complete_events_eq p status
  rw [ho] at hbreakers hevents
  cases hp : p.breaker with
  | none =>
    rw [hp, Option.elim_none] at hbreakers hevents
    refine ⟨hnow, hsnapshot, hlimiter, ?_, fun permit he => ?_, fun key _ => ?_⟩
    · rw [hevents, List.append_nil]
    · rw [hp] at he
      cases he
    · rw [hbreakers]
  | some permit =>
    rw [hp, Option.elim_some] at hbreakers hevents
    have hkey : permit.key = p.key := hc.keyed p (Multiset.mem_cons_self p rest) permit hp
    obtain ⟨entry, hh⟩ := hc.pinned.present permit
      ((Multiset.mem_filterMap _ _).2 ⟨p, Multiset.mem_cons_self p rest, hp⟩)
    obtain ⟨hev, hset⟩ := Breakers.complete_ignored hh (g.now.since p.startedAt) g.now
    rw [hset, hkey] at hbreakers
    refine ⟨hnow, hsnapshot, hlimiter, ?_, fun permit' he => ?_, fun key hkey => ?_⟩
    · rw [hevents, hev, List.append_nil]
    · rw [hp] at he
      cases he
      refine ⟨entry, hkey ▸ (Breakers.holder?_eq_some.1 hh).1, ?_⟩
      rw [hbreakers]
      exact Breakers.entry?_set_self _ _ _
    · rw [hbreakers]
      exact Breakers.entry?_set_of_ne _ _ (hkey.resolve_left (by simp [hp]))

theorem vanished_of_ignored {rest : Multiset Permit} (hc : Custody.Sound ⟨g, p ::ₘ rest⟩)
    (hi : .cancelled ∈ g.snapshot.classifier.ignoredCodes) : Vanished g p (g.abandon p) := by
  apply vanished_of_complete hc
  rw [classify_cancelled, if_pos hi]

/-- Whether a call that is given up vanishes is a matter of the classifier alone. -/
theorem vanished_iff {rest : Multiset Permit} (hc : Custody.Sound ⟨g, p ::ₘ rest⟩) :
    Vanished g p (g.abandon p) ↔ .cancelled ∈ g.snapshot.classifier.ignoredCodes := by
  refine ⟨fun hv => ?_, vanished_of_ignored hc⟩
  have hlast := congrArg List.getLast? (hv.events.symm.trans (g.complete_events_eq p .cancelled))
  rw [List.getLast?_concat, List.getLast?_concat, complete_outcome, classify_cancelled] at hlast
  by_contra hn
  rw [if_neg hn] at hlast
  split at hlast <;> cases hlast

end Guard

namespace Session

variable {α β ε : Type} {s : Session α β ε} {p : Permit}

def abandons? (s : Session α β ε) : Action β ε → Option Permit
  | .drop name => s.permits.get? name
  | .endCall name .abandoned => s.calls.get? name
  | .endExchange name _ .abandoned => s.requests.get? name
  | .dropStream name => (s.streams.get? name).bind (·.permit)
  | .dropBody name => (s.bodies.get? name).bind (·.permit)
  | _ => none

theorem Tidy.out_of_served {γ : Type} {rack : Rack α β ε γ} {place : String → Place}
    {held : γ → Held β ε} (ht : s.Tidy) (hr : rack.Stands place held) {name : String} {c : γ}
    (hc : (rack.shelf s).get? name = some c) (hp : (held c).permit? = some p) (g : Guard α) :
    s.out = p ::ₘ (rack.refit { s with guard := g } ((rack.shelf s).set name none)).out := by
  obtain ⟨rest, hsplit, hset⟩ := hr.custody_split ht name
  rw [hc, Option.bind_some, hp] at hsplit
  have hout : s.out = p ::ₘ rest := congrArg Custody.out hsplit
  have hleft : (rack.refit { s with guard := g } ((rack.shelf s).set name none)).out = 0 + rest :=
    congrArg Custody.out (hset g none)
  rw [hout, hleft, zero_add]

theorem Tidy.serve_abandons {γ : Type} {rack : Rack α β ε γ} {place : String → Place}
    {held : γ → Held β ε} (ht : s.Tidy) (hr : rack.Stands place held) {name : String}
    {act : Guard α → γ → Reply α β ε × Option γ × Guard α}
    (hact : ∀ c, (act s.guard c).2 = (none, rack.giveUp c s.guard))
    (ha : ((rack.shelf s).get? name).bind (fun c => (held c).permit?) = some p) :
    (s.serve rack name act).2.guard = s.guard.abandon p ∧
      s.out = p ::ₘ (s.serve rack name act).2.out := by
  obtain ⟨c, hc, hp⟩ := Option.bind_eq_some_iff.1 ha
  have hleft := hr.sets s (rack.giveUp c s.guard) name none
  have hguard : rack.giveUp c s.guard = s.guard.abandon p := by
    rw [hr.giveUp_eq, hp]
    rfl
  simp only [Session.serve, hc, about, hact]
  exact ⟨hleft.guard.trans hguard, ht.out_of_served hr hc hp _⟩

theorem Tidy.step_abandons [Quantity α] [CallFault ε] (ht : s.Tidy) {a : Action β ε}
    (ha : s.abandons? a = some p) :
    (s.step a).2.guard = s.guard.abandon p ∧ s.out = p ::ₘ (s.step a).2.out := by
  cases a with
  | drop name =>
    have hp : (s.permits.get? name).bind some = some p := (Option.bind_fun_some _).trans ha
    exact ht.serve_abandons .permits (fun _ => rfl) hp
  | endCall name ending =>
    cases ending with
    | abandoned =>
      have hp : (s.calls.get? name).bind some = some p := (Option.bind_fun_some _).trans ha
      exact ht.serve_abandons .calls (fun _ => rfl) hp
    | finished | overdue => cases ha
  | endExchange name body ending =>
    cases ending with
    | abandoned =>
      have hp : s.requests.get? name = some p := ha
      simp only [Session.step, endExchange, hp, Guard.respond]
      exact ⟨rfl, ht.out_of_served .requests hp rfl _⟩
    | finished | overdue => cases ha
  | dropStream name => exact ht.serve_abandons .streams (fun _ => rfl) ha
  | dropBody name => exact ht.serve_abandons .bodies (fun _ => rfl) ha
  | _ => cases ha

/-- In every run of a guard, a call that is out and is given up frees its slot, is told as ignored and
changes nothing else if and only if the classifier in effect ignores cancellations; and what is
dropped in a session is given up in this way. -/
theorem abandoned_call [Quantity α] [CallFault ε] (snapshot : Snapshot) (as : List (Action β ε)) :
    let s : Session α β ε := (ofGuard (.ofSnapshot snapshot)).run as
    (∀ p ∈ s.out, Guard.Vanished s.guard p (s.guard.abandon p) ↔
      .cancelled ∈ s.guard.snapshot.classifier.ignoredCodes) ∧
    ∀ a p, s.abandons? a = some p →
      (s.step a).2.guard = s.guard.abandon p ∧ s.out = p ::ₘ (s.step a).2.out := by
  intro s
  refine ⟨fun p hp => ?_, fun a p ha => ((tidy_ofGuard _).run as).step_abandons ha⟩
  obtain ⟨rest, hout⟩ := Multiset.exists_cons_of_mem hp
  have hc : s.custody.Sound := sound_run snapshot as
  rw [custody, hout] at hc
  exact Guard.vanished_iff hc

/-- With cancellations among the failures, a dropped call fails: a valid configuration, under which
one is enough to open the breaker. -/
theorem dropped_call_opens :
    let t := { Thresholds.standard with minimumCalls := 1 }
    let c : Config :=
      { Config.standard with classifier := ⟨[.cancelled], []⟩, circuitBreaking := ⟨true, t⟩ }
    let s : Session Rat Unit := (ofGuard (.ofSnapshot (.ofConfig 1 c))).run [.enter "a" "m" .empty]
    let after := (s.step (.drop "a")).2
    c.violations = [] ∧
      (s.guard.breakers.breaker? ⟨"m"⟩).map (fun b => (b.state, b.inFlight.length)) =
        some (.closed, 1) ∧
      after.guard.events =
        [.transition ⟨"m"⟩ ⟨.closed, .open⟩, .outcome ⟨"m"⟩ .failure] ∧
      after.guard.breakers.state? ⟨"m"⟩ = some .open := by
  decide +kernel

end Session
end Turnstile
