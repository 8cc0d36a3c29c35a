import Turnstile.Proofs.Config.Breaches
import Turnstile.Proofs.Resolution.Precedence
/-!
What the policy of a call is made of. Quota and thresholds are those of the rule that the call is under
or, where it gives none, the default ones, unless they are off; and as the configuration has been
accepted, so has whatever a policy takes from it.
-/
namespace Turnstile

structure Quota.Valid (q : Quota) : Prop where
  capacity : 0 < q.capacity
  refillTokens : 0 < q.refillTokens
  refillInterval : 0 < q.refillIntervalMs

/-- Thresholds that can be reached, by samples of which there is room for enough. -/
structure Thresholds.Valid (t : Thresholds) : Prop where
  failureRate : 0 < t.failureRate ∧ t.failureRate ≤ 100
  slowCallRate : 0 < t.slowCallRate ∧ t.slowCallRate ≤ 100
  windowSize : 1 ≤ t.windowSize
  minimumCalls : 1 ≤ t.minimumCalls ∧ t.minimumCalls ≤ t.windowSize
  cooldown : 0 < t.cooldownMs
  probePermits : 0 < t.probePermits
  successThreshold : 0 < t.successThreshold
  probeGrace : 0 < t.probeGraceMs

structure Policy.Valid (p : Policy) : Prop where
  tokenCost : 0 < p.tokenCost
  deadline : p.deadlineMs ≠ some 0
  quota : ∀ q, p.quota = some q → q.Valid
  thresholds : ∀ t, p.thresholds = some t → t.Valid

theorem Quota.valid_of_not_breaks {scope : String} {q : Quota} (hq : ∀ v, ¬q.Breaks scope v) :
    q.Valid where
  capacity := by
    by_contra h
    exact hq _ (.capacity (not_lt.1 h))
  refillTokens := by
    by_contra h
    exact hq _ (.refillTokens (not_lt.1 h))
  refillInterval := Nat.pos_of_ne_zero fun h => hq _ (.refillInterval h)

theorem Thresholds.valid_of_not_breaks {scope : String} {t : Thresholds}
    (ht : ∀ v, ¬t.Breaks scope v) : t.Valid := by
  have hwindow : 0 < t.windowSize := Nat.pos_of_ne_zero fun h => ht _ (.windowSize h)
  have hminimum : 0 < t.minimumCalls := Nat.pos_of_ne_zero fun h => ht _ (.minimumCalls h)
  exact {
    failureRate := by
      by_contra h
      exact ht _ (.failureRate h)
    slowCallRate := by
      by_contra h
      exact ht _ (.slowCallRate h)
    windowSize := hwindow
    minimumCalls := ⟨hminimum, not_lt.1 fun h => ht _ (.minimumAboveWindow hminimum hwindow h)⟩
    cooldown := Nat.pos_of_ne_zero fun h => ht _ (.cooldown h)
    probePermits := Nat.pos_of_ne_zero fun h => ht _ (.probePermits h)
    successThreshold := Nat.pos_of_ne_zero fun h => ht _ (.successThreshold h)
    probeGrace := Nat.pos_of_ne_zero fun h => ht _ (.probeGrace h) }

namespace Config

/-- The rule that a call is under, or that there is none. -/
def Governs (c : Config) (method : String) (ctx : Context) : Option Rule → Prop
  | none => c.candidates method ctx = []
  | some r => FirstGreatest Rule.score (c.candidates method ctx) r

/-- Where the quota and the thresholds in a policy come from. -/
structure Composes (c : Config) (r : Option Rule) (p : Policy) : Prop where
  quota : ∀ q, p.quota = some q ↔
    c.rateLimiting.enabled = true ∧ (∀ rule, r = some rule → .rateLimit ∉ rule.disabled) ∧
      (r.bind (·.quota)).getD c.rateLimiting.quota = q
  thresholds : ∀ t, p.thresholds = some t ↔
    c.circuitBreaking.enabled = true ∧ (∀ rule, r = some rule → .circuitBreaker ∉ rule.disabled) ∧
      (r.bind (·.thresholds)).getD c.circuitBreaking.thresholds = t

variable {c : Config} {r : Rule}

theorem not_breaks (hv : c.violations = []) (site : Site) (v : Violation) : ¬c.Breaks site v := by
  rw [← map_snd_breaches, List.map_eq_nil_iff] at hv
  exact breaches_eq_nil.1 hv site v

theorem not_rule_breaks (hv : c.violations = []) (hr : r ∈ c.rules) :
    ∃ before, ∀ v, ¬r.Breaks before v := by
  obtain ⟨before, after, hrules⟩ := List.append_of_mem hr
  exact ⟨before, fun v h => not_breaks hv _ v (.rule before r after v hrules h)⟩

theorem default_quota_valid (hv : c.violations = []) : c.rateLimiting.quota.Valid :=
  Quota.valid_of_not_breaks fun v h => not_breaks hv _ v (.defaults v (.quota v h))

theorem default_thresholds_valid (hv : c.violations = []) : c.circuitBreaking.thresholds.Valid :=
  Thresholds.valid_of_not_breaks fun v h => not_breaks hv _ v (.defaults v (.thresholds v h))

theorem default_deadline_ne (hv : c.violations = []) : c.defaultDeadlineMs ≠ some 0 :=
  fun h => not_breaks hv _ _ (.defaults _ (.deadline h))

theorem composes_defaultPolicy (c : Config) : c.Composes none c.defaultPolicy := by
  constructor <;> intro x <;> simp [defaultPolicy]

theorem composes_policyOf (c : Config) (r : Rule) : c.Composes (some r) (c.policyOf r) := by
  constructor <;> intro x <;> simp [policyOf, quotaFor, thresholdsFor, and_assoc]

theorem rule_quota_valid (hv : c.violations = []) (hr : r ∈ c.rules) {q : Quota}
    (hq : r.quota = some q) : q.Valid := by
  obtain ⟨before, hrule⟩ := not_rule_breaks hv hr
  exact Quota.valid_of_not_breaks fun v h => hrule v (.quota q v hq h)

theorem rule_thresholds_valid (hv : c.violations = []) (hr : r ∈ c.rules) {t : Thresholds}
    (ht : r.thresholds = some t) : t.Valid := by
  obtain ⟨before, hrule⟩ := not_rule_breaks hv hr
  exact Thresholds.valid_of_not_breaks fun v h => hrule v (.thresholds t v ht h)

theorem own_or_default {β : Type} {P : β → Prop} {own? : Rule → Option β} {d : β}
    {r : Option Rule} (hd : P d) (hown : ∀ rule, r = some rule → ∀ x, own? rule = some x → P x) :
    P ((r.bind own?).getD d) := by
  cases ho : r.bind own? with
  | none => exact hd
  | some x =>
    obtain ⟨rule, hrule, hx⟩ := Option.bind_eq_some_iff.1 ho
    exact hown rule hrule x hx

theorem Composes.quota_valid {p : Policy} {r : Option Rule} (hp : c.Composes r p)
    (hv : c.violations = []) (hr : ∀ rule, r = some rule → rule ∈ c.rules) {q : Quota}
    (hq : p.quota = some q) : q.Valid := by
  obtain ⟨-, -, rfl⟩ := (hp.quota q).1 hq
  exact own_or_default (default_quota_valid hv) fun rule hrule _ =>
    rule_quota_valid hv (hr rule hrule)

theorem Composes.thresholds_valid {p : Policy} {r : Option Rule} (hp : c.Composes r p)
    (hv : c.violations = []) (hr : ∀ rule, r = some rule → rule ∈ c.rules) {t : Thresholds}
    (ht : p.thresholds = some t) : t.Valid := by
  obtain ⟨-, -, rfl⟩ := (hp.thresholds t).1 ht
  exact own_or_default (default_thresholds_valid hv) fun rule hrule _ =>
    rule_thresholds_valid hv (hr rule hrule)

theorem defaultPolicy_valid (hv : c.violations = []) : c.defaultPolicy.Valid where
  tokenCost := Nat.one_pos
  deadline := default_deadline_ne hv
  quota _ := c.composes_defaultPolicy.quota_valid hv fun _ h => nomatch h
  thresholds _ := c.composes_defaultPolicy.thresholds_valid hv fun _ h => nomatch h

theorem policyOf_valid (hv : c.violations = []) (hr : r ∈ c.rules) : (c.policyOf r).Valid := by
  have hrules : ∀ rule, some r = some rule → rule ∈ c.rules := fun _ h => Option.some.inj h ▸ hr
  obtain ⟨before, hrule⟩ := not_rule_breaks hv hr
  exact {
    tokenCost := Nat.pos_of_ne_zero fun h => hrule _ (.tokenCost h)
    deadline := fun h => by
      rcases Option.or_eq_some_iff.1 h with hown | ⟨-, hdefault⟩
      · exact hrule _ (.deadline hown)
      · exact default_deadline_ne hv hdefault
    quota := fun _ => (c.composes_policyOf r).quota_valid hv hrules
    thresholds := fun _ => (c.composes_policyOf r).thresholds_valid hv hrules }

end Config

namespace Snapshot

variable {version : Nat} {c : Config}

theorem resolve_composes (version : Nat) (c : Config) (method : String) (ctx : Context) :
    ∃ r, c.Governs method ctx r ∧ c.Composes r ((ofConfig version c).resolve method ctx) := by
  rcases resolve_ofConfig version c method ctx with ⟨hnone, hd⟩ | ⟨r, hr, hw⟩
  · exact ⟨none, hnone, hd ▸ c.composes_defaultPolicy⟩
  · exact ⟨some r, hr, hw ▸ c.composes_policyOf r⟩

theorem resolve_valid (hv : c.violations = []) (version : Nat) (method : String) (ctx : Context) :
    ((ofConfig version c).resolve method ctx).Valid := by
  rcases resolve_ofConfig version c method ctx with ⟨-, hd⟩ | ⟨r, hr, hw⟩
  · exact hd ▸ Config.defaultPolicy_valid hv
  · exact hw ▸ Config.policyOf_valid hv (List.mem_of_mem_filter hr.mem)

end Snapshot
end Turnstile
