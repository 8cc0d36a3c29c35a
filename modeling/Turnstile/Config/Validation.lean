import Turnstile.Config.Basic
import Turnstile.Text.Blank
/-!
Validation of configurations. It collects every violation, in the order of the parts of a
configuration, and a configuration without one is accepted.
-/
namespace Turnstile

/-- A constraint that a configuration breaks. The scope is `default` or the pattern of a rule. -/
inductive Violation where
  | nonPositiveCapacity (scope : String) (value : Int)
  | nonPositiveRefill (scope : String) (value : Int)
  | zeroRefillInterval (scope : String)
  | rateOutOfRange (scope field : String)
  | emptyWindow (scope : String)
  | minimumExceedsWindow (scope : String) (minimum window : Nat)
  | zeroMinimumCalls (scope : String)
  | zeroCooldown (scope : String)
  | zeroProbePermits (scope : String)
  | zeroSuccessThreshold (scope : String)
  | zeroProbeGrace (scope : String)
  | zeroTokenCost (scope : String)
  | zeroDeadline (scope : String)
  | emptyPattern
  | duplicatePattern (pattern : String)
  | conflictingCode (code : Code)
  | zeroSweepInterval
  | zeroMaxKeys
  deriving DecidableEq, Inhabited

namespace Violation

def message : Violation → String
  | .nonPositiveCapacity scope value => s!"{scope}: quota capacity must be positive (got {value})"
  | .nonPositiveRefill scope value => s!"{scope}: refill tokens must be positive (got {value})"
  | .zeroRefillInterval scope => s!"{scope}: refill interval must be positive"
  | .rateOutOfRange scope field => s!"{scope}: {field} must be within (0, 100]"
  | .emptyWindow scope => s!"{scope}: sliding window size must be positive"
  | .minimumExceedsWindow scope minimum window =>
    s!"{scope}: minimum number of calls ({minimum}) exceeds window size ({window})"
  | .zeroMinimumCalls scope => s!"{scope}: minimum number of calls must be positive"
  | .zeroCooldown scope => s!"{scope}: open-state wait duration must be positive"
  | .zeroProbePermits scope => s!"{scope}: at least one half-open probe must be permitted"
  | .zeroSuccessThreshold scope => s!"{scope}: success threshold must be positive"
  | .zeroProbeGrace scope => s!"{scope}: probe grace period must be positive"
  | .zeroTokenCost scope => s!"{scope}: token cost must be positive"
  | .zeroDeadline scope => s!"{scope}: deadline must be positive"
  | .emptyPattern => "policy pattern must not be empty"
  | .duplicatePattern pattern => s!"duplicate policy for pattern {pattern}"
  | .conflictingCode code => s!"status code {code.name} is both a failure and an ignored code"
  | .zeroSweepInterval => "registry sweep interval must be positive"
  | .zeroMaxKeys => "registry max_keys must be positive"

end Violation

def violationIf (broken : Bool) (v : Violation) : List Violation := if broken then [v] else []

def Quota.violations (scope : String) (q : Quota) : List Violation :=
  violationIf (q.capacity ≤ 0) (.nonPositiveCapacity scope q.capacity) ++
  violationIf (q.refillTokens ≤ 0) (.nonPositiveRefill scope q.refillTokens) ++
  violationIf (q.refillIntervalMs == 0) (.zeroRefillInterval scope)

/-- Whether a threshold is a share that can be reached, and not without a single sample. -/
def isShare (rate : Float) : Bool := decide (0 < rate) && decide (rate ≤ 100)

def Thresholds.violations (scope : String) (t : Thresholds) : List Violation :=
  violationIf (!isShare t.failureRate) (.rateOutOfRange scope "failure_rate_threshold") ++
  violationIf (!isShare t.slowCallRate) (.rateOutOfRange scope "slow_call_rate_threshold") ++
  violationIf (t.windowSize == 0) (.emptyWindow scope) ++
  violationIf (t.minimumCalls == 0) (.zeroMinimumCalls scope) ++
  violationIf (t.minimumCalls != 0 && t.windowSize != 0 && t.windowSize < t.minimumCalls)
    (.minimumExceedsWindow scope t.minimumCalls t.windowSize) ++
  violationIf (t.cooldownMs == 0) (.zeroCooldown scope) ++
  violationIf (t.probePermits == 0) (.zeroProbePermits scope) ++
  violationIf (t.successThreshold == 0) (.zeroSuccessThreshold scope) ++
  violationIf (t.probeGraceMs == 0) (.zeroProbeGrace scope)

namespace Rule

def isBlank (r : Rule) : Bool := (Text.trimmed r.pattern.toList).isEmpty

/-- What two rules may not have in common: a pattern is repeated only with other required values. -/
def identity (r : Rule) : String × List (String × String) := (r.pattern, r.matchAttributes)

/-- Violations of a rule whose pattern is not blank, apart from its being a repetition. -/
def violations (r : Rule) : List Violation :=
  (r.quota.toList.flatMap fun q => q.violations r.pattern) ++
  (r.thresholds.toList.flatMap fun t => t.violations r.pattern) ++
  violationIf (r.tokenCost == 0) (.zeroTokenCost r.pattern) ++
  violationIf (r.deadlineMs == some 0) (.zeroDeadline r.pattern)

/-- Violations of rules that come after the rules `before`. -/
def listViolations (before : List Rule) : List Rule → List Violation
  | [] => []
  | r :: rest =>
    if r.isBlank then .emptyPattern :: listViolations before rest
    else
      violationIf (before.any (·.identity == r.identity)) (.duplicatePattern r.pattern) ++
      r.violations ++ listViolations (before ++ [r]) rest

end Rule

namespace Config

def violations (c : Config) : List Violation :=
  c.rateLimiting.quota.violations "default" ++
  c.circuitBreaking.thresholds.violations "default" ++
  violationIf (c.defaultDeadlineMs == some 0) (.zeroDeadline "default") ++
  (c.classifier.failureCodes.filter (· ∈ c.classifier.ignoredCodes)).map .conflictingCode ++
  violationIf (c.retention.sweepIntervalSecs == 0) .zeroSweepInterval ++
  violationIf (c.retention.maxKeys == 0) .zeroMaxKeys ++
  Rule.listViolations [] c.rules

def validate (c : Config) : Except (List Violation) Unit :=
  if c.violations.isEmpty then .ok () else .error c.violations

end Config
end Turnstile
