import Turnstile.Proofs.Resolution
import Turnstile.Proofs.Session.Admission
/-!
The first call of a guard. A breaker that was made just now lets it pass, and so does a full bucket
unless the price of the call is beyond its capacity: then no bucket ever holds the price, and every
call is throttled. Accepted configurations may have rules with such a price.
-/
namespace Turnstile

/-- Whether a full bucket covers the price of a call under this policy. -/
def Policy.Payable (p : Policy) : Prop := ∀ q, p.quota = some q → (p.tokenCost : Int) ≤ q.capacity

instance (p : Policy) : Decidable p.Payable :=
  decidable_of_iff (p.quota.all fun q => (p.tokenCost : Int) ≤ q.capacity) (by
    unfold Policy.Payable
    cases p.quota <;> simp)

theorem Config.defaultPolicy_payable {c : Config} (hv : c.violations = []) :
    c.defaultPolicy.Payable := by
  intro q hq
  have hpos := (Config.default_quota_of_violations_eq_nil hv).1
  simp only [Config.defaultPolicy] at hq ⊢
  split at hq
  · cases hq
    exact hpos
  · cases hq

theorem Snapshot.capacity_pos {version : Nat} {c : Config} {s : Snapshot}
    (hs : compile version c = .ok s) {method : String} {ctx : Context} {q : Quota}
    (hq : (s.resolve method ctx).quota = some q) : 0 < q.capacity := by
  have hv := (compile_eq_ok.1 hs).1
  rcases resolve_source hs method ctx with hd | ⟨r, hr, hp⟩
  · rw [hd] at hq
    have hcost : (1 : Int) ≤ q.capacity := Config.defaultPolicy_payable hv q hq
    omega
  · rw [hp] at hq
    exact Config.quotaFor_pos hv hr hq

namespace Bucket

variable {q : Quota} {permits : Nat}

theorem acquire_full (hc : 0 < q.capacity) (hp : (permits : Int) ≤ q.capacity) (now : Instant) :
    ((full q now : Bucket Rat).acquire q permits now).1 = true := by
  have hslack : (0 : Rat) ≤ Quantity.slack := by decide +kernel
  have hprice : (permits : Rat) ≤ q.capacity := by exact_mod_cast hp
  refine acquire_iff.2 ⟨hc, ?_⟩
  rw [refill_full, fullSize_of_pos hc]
  exact hprice.trans (le_add_of_nonneg_right hslack)

/-- A price beyond the capacity is never paid, whatever the bucket holds: the slack is less than one
token. -/
theorem not_acquire_of_capacity_lt (hp : q.capacity < permits) (now : Instant) (b : Bucket Rat) :
    (b.acquire q permits now).1 = false := by
  have hslack : (Quantity.slack : Rat) < 1 := by decide +kernel
  refine eq_false_of_ne_true fun hg => ?_
  obtain ⟨hc, hprice⟩ := acquire_iff.1 hg
  have hfull := refill_le_fullSize q now b
  rw [fullSize_of_pos hc] at hfull
  have hbeyond : (q.capacity : Rat) + 1 ≤ permits := by exact_mod_cast hp
  linarith

end Bucket

namespace Guard

variable {g : Guard Rat} {key : Key} {policy : Policy}

theorem takeTokens_new (hl : g.limiter = .empty) (hc : ∀ q, policy.quota = some q → 0 < q.capacity)
    (hp : policy.Payable) : (g.takeTokens key policy).1 = true := by
  rw [takeTokens_fst, Limiter.affords, hl]
  cases hq : policy.quota with
  | none => rfl
  | some q => exact Bucket.acquire_full (hc q hq) (hp q hq) g.now

theorem takeTokens_unpayable (hp : ¬ policy.Payable) : (g.takeTokens key policy).1 = false := by
  simp only [Policy.Payable, not_forall, Int.not_le] at hp
  obtain ⟨q, hq, hlt⟩ := hp
  rw [takeTokens_fst, Limiter.affords, hq]
  exact Bucket.not_acquire_of_capacity_lt hlt g.now _

theorem Slot.ok_of_new {α : Type} {g g' : Guard α} {answer : Except Circuit (Option BreakerPermit)}
    (hs : Slot g key policy answer g') (hb : g.breakers = .empty) :
    ∃ breaker, answer = .ok breaker := by
  cases hs with
  | unasked => exact ⟨none, rfl⟩
  | taken => exact ⟨_, rfl⟩
  | denied on acquired =>
    have hl : g.breakers.Lawful := hb ▸ ⟨[], Breakers.chronicle_empty⟩
    obtain ⟨entry, -, -, he, -⟩ := Breakers.acquire_rejected hl acquired
    rw [hb] at he
    cases he

theorem ofConfig_eq_ok {α : Type} {c : Config} {g : Guard α} :
    ofConfig c = .ok g ↔ c.violations = [] ∧ g = ofSnapshot (.ofConfig 1 c) := by
  rw [ofConfig]
  cases hs : Snapshot.compile 1 c with
  | error vs =>
    refine iff_of_false (fun h => nomatch h) fun ⟨hv, _⟩ => ?_
    have hok : Snapshot.compile 1 c = .ok (.ofConfig 1 c) := Snapshot.compile_eq_ok.2 ⟨hv, rfl⟩
    cases hs.symm.trans hok
  | ok s =>
    obtain ⟨hv, rfl⟩ := Snapshot.compile_eq_ok.1 hs
    exact ⟨fun h => ⟨hv, (Except.ok.inj h).symm⟩, fun h => congrArg Except.ok h.2.symm⟩

/-- The first call of a guard passes if the price of its policy can be paid. If it cannot, the policy
is that of a rule, and calls under it are throttled at any time in the life of any guard with the
same snapshot. -/
theorem first_call {c : Config} (hg : ofConfig c = .ok g) (method : String) (ctx : Context) :
    let call := g.snapshot.extract method ctx
    (call.2.Payable → ∀ wait, ∃ p, ((g.advance wait).enter method ctx).1 = .ok p) ∧
      (¬ call.2.Payable → (∃ r ∈ c.rules, call.2 = c.policyOf r) ∧
        ∀ g' : Guard Rat, g'.snapshot = g.snapshot →
          (g'.enter method ctx).1 = .error (.rateLimited call.1)) := by
  intro call
  obtain ⟨hv, rfl⟩ := ofConfig_eq_ok.1 hg
  have hs : Snapshot.compile 1 c = .ok (.ofConfig 1 c) := Snapshot.compile_eq_ok.2 ⟨hv, rfl⟩
  refine ⟨fun hpay wait => ?_, fun hpay => ⟨?_, fun g' hsame => ?_⟩⟩
  · let fresh : Guard Rat := (ofSnapshot (.ofConfig 1 c)).advance wait
    have hpaid : (fresh.takeTokens call.1 call.2).1 = true :=
      takeTokens_new rfl (fun q hq => Snapshot.capacity_pos hs hq) hpay
    rcases ha : fresh.enter method ctx with ⟨answer, g'⟩
    cases entry_of_enter ha with
    | throttled short => cases hpaid.symm.trans short
    | refused paid denied =>
      obtain ⟨breaker, hb⟩ := denied.ok_of_new (takeTokens_frame _ _ _).2.2.1
      cases hb
    | passed => exact ⟨_, rfl⟩
  · rcases Snapshot.resolve_source hs method ctx with hd | hr
    · have hdefault : call.2 = c.defaultPolicy := hd
      rw [hdefault] at hpay
      exact absurd (Config.defaultPolicy_payable hv) hpay
    · exact hr
  · rcases ha : g'.enter method ctx with ⟨answer, after⟩
    have hcall : g'.snapshot.extract method ctx = call := congrArg (·.extract method ctx) hsame
    have he := entry_of_enter ha
    rw [hcall] at he
    have hshort : (g'.takeTokens call.1 call.2).1 = false := takeTokens_unpayable hpay
    cases he with
    | throttled => rfl
    | refused paid | passed paid => cases hshort.symm.trans paid

/-- A price of the whole capacity can be paid once the bucket is full, and a token more never. -/
theorem first_call_at_capacity :
    let r (method : String) (cost : Nat) := { Rule.ofPattern method with tokenCost := cost }
    let c := { Config.standard with rules := [r "all" 100, r "more" 101] }
    let g : Guard Rat := .ofSnapshot (.ofConfig 1 c)
    ofConfig c = .ok g ∧ (∃ p, (g.enter "all" .empty).1 = .ok p) ∧
      ∀ g' : Guard Rat, g'.snapshot = g.snapshot →
        (g'.enter "more" .empty).1 = .error (.rateLimited ⟨"more"⟩) := by
  intro r c g
  have hg : ofConfig c = .ok g := ofConfig_eq_ok.2 ⟨by decide +kernel, rfl⟩
  have hall : (g.snapshot.extract "all" .empty).2 = c.policyOf (r "all" 100) := by decide +kernel
  have hmore : g.snapshot.extract "more" .empty = (⟨"more"⟩, c.policyOf (r "more" 101)) := by
    decide +kernel
  have hpay : (c.policyOf (r "all" 100)).Payable := by decide +kernel
  have hdear : ¬ (c.policyOf (r "more" 101)).Payable := by decide +kernel
  have hfirst := (first_call hg "all" .empty).1 (hall ▸ hpay) 0
  have hnever := (first_call hg "more" .empty).2 (hmore ▸ hdear)
  rw [hmore] at hnever
  exact ⟨hg, hfirst, hnever.2⟩

/-- A configuration with a price beyond the default capacity is accepted, and its first call is
throttled. -/
theorem dear_first_call_throttled :
    let r := { Rule.ofPattern "svc/" with tokenCost := 101 }
    let c := { Config.standard with rules := [r] }
    let g : Guard Float := .ofSnapshot (.ofConfig 1 c)
    c.violations = [] ∧ g.snapshot.resolve "svc/M" .empty = c.policyOf r ∧
      (g.enter "svc/M" .empty).1 = .error (.rateLimited ⟨"svc/M"⟩) := by
  decide +kernel

end Guard
end Turnstile
