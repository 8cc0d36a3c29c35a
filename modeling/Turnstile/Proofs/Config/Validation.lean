import Turnstile.Policy
/-!
What an accepted configuration is known to keep to. Violations are listed part by part, so that a
configuration without any has none in any of its parts.
-/
namespace Turnstile

theorem violationIf_eq_nil {broken : Bool} {v : Violation} :
    violationIf broken v = [] ↔ broken = false := by
  cases broken <;> simp [violationIf]

theorem Quota.violations_eq_nil {scope : String} {q : Quota} :
    q.violations scope = [] ↔ 0 < q.capacity ∧ 0 < q.refillTokens ∧ 0 < q.refillIntervalMs := by
  simp only [violations, List.append_eq_nil_iff, violationIf_eq_nil, decide_eq_false_iff_not,
    Int.not_le, beq_eq_false_iff_ne, and_assoc, Nat.pos_iff_ne_zero]

theorem Thresholds.probePermits_pos {scope : String} {t : Thresholds}
    (hv : t.violations scope = []) : 1 ≤ t.probePermits := by
  simp only [violations, List.append_eq_nil_iff, violationIf_eq_nil, beq_eq_false_iff_ne] at hv
  exact Nat.one_le_iff_ne_zero.2 hv.1.1.2

namespace Rule

theorem listViolations_eq_nil {before rules : List Rule} (hv : listViolations before rules = [])
    {r : Rule} (hr : r ∈ rules) : r.isBlank = false ∧ r.violations = [] := by
  induction rules generalizing before with
  | nil => cases hr
  | cons first rest ih =>
    unfold listViolations at hv
    split at hv
    · cases hv
    · next hb =>
      obtain ⟨hv, hrest⟩ := List.append_eq_nil_iff.1 hv
      obtain ⟨-, hfirst⟩ := List.append_eq_nil_iff.1 hv
      rcases List.mem_cons.1 hr with rfl | hr
      · exact ⟨Bool.eq_false_iff.2 hb, hfirst⟩
      · exact ih hrest hr

theorem quota_of_violations_eq_nil {r : Rule} (hv : r.violations = []) {q : Quota}
    (hq : r.quota = some q) : 0 < q.capacity ∧ 0 < q.refillTokens ∧ 0 < q.refillIntervalMs := by
  simp only [violations, List.append_eq_nil_iff, List.flatMap_eq_nil_iff] at hv
  exact Quota.violations_eq_nil.1 (hv.1.1.1 q (by simp [hq]))

end Rule

namespace Config

theorem validate_eq_ok {c : Config} : c.validate = .ok () ↔ c.violations = [] := by
  unfold validate
  cases c.violations <;> simp

variable {c : Config}

theorem default_quota_of_violations_eq_nil (hv : c.violations = []) :
    0 < c.rateLimiting.quota.capacity ∧ 0 < c.rateLimiting.quota.refillTokens ∧
      0 < c.rateLimiting.quota.refillIntervalMs := by
  simp only [violations, List.append_eq_nil_iff] at hv
  exact Quota.violations_eq_nil.1 hv.1.1.1.1.1.1

theorem rule_of_violations_eq_nil (hv : c.violations = []) {r : Rule} (hr : r ∈ c.rules) :
    r.isBlank = false ∧ r.violations = [] := by
  simp only [violations, List.append_eq_nil_iff] at hv
  exact Rule.listViolations_eq_nil hv.2 hr

theorem quotaFor_pos (hv : c.violations = []) {r : Rule} (hr : r ∈ c.rules) {q : Quota}
    (hq : c.quotaFor r = some q) : 0 < q.capacity := by
  unfold quotaFor at hq
  split at hq
  · cases ho : r.quota with
    | none =>
      rw [ho] at hq
      cases hq
      exact (default_quota_of_violations_eq_nil hv).1
    | some own =>
      rw [ho] at hq
      cases hq
      exact (Rule.quota_of_violations_eq_nil (rule_of_violations_eq_nil hv hr).2 ho).1
  · cases hq

end Config
end Turnstile
