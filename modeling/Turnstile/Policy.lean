import Turnstile.Config.Document
import Turnstile.Config.Validation
import Turnstile.Context
import Turnstile.Key
/-!
Policies for calls. A configuration is compiled into a snapshot, in which the most specific rule for
a call is looked up: an exact pattern before a beginning, a longer beginning before a shorter one,
more required attributes before fewer, and an earlier rule before a later one.
-/
namespace Turnstile

structure Policy where
  pattern : Option String
  partition : Partition
  keyAttributes : List String
  /-- Values that the rule requires. They are part of the key, so that rules which differ in them
  alone share no state. -/
  matchAttributes : List (String × String)
  quota : Option Quota
  thresholds : Option Thresholds
  tokenCost : Nat
  deadlineMs : Option Nat
  deriving DecidableEq

def Policy.deadline (p : Policy) : Option Span := p.deadlineMs.map .ofMillis

def Policy.toData (p : Policy) : Data :=
  .table [("pattern", .ofOption .string p.pattern), ("partition", .string p.partition.name),
    ("key_attributes", .strings p.keyAttributes),
    ("match_attributes", .list (p.matchAttributes.map fun a => .strings [a.1, a.2])),
    ("quota", .ofOption Quota.toData p.quota), ("breaker", .ofOption Thresholds.toData p.thresholds),
    ("token_cost", .ofNat p.tokenCost), ("deadline_ms", .ofOption .ofNat p.deadlineMs)]

inductive Matcher where
  | any
  | exact (method : String)
  | beginning (text : String)
  deriving DecidableEq, Inhabited

structure Specificity where
  exact : Bool
  /-- Length of the pattern in bytes. -/
  length : Nat
  required : Nat
  deriving DecidableEq, Inhabited

def Specificity.beats (a b : Specificity) : Bool :=
  if a.exact ≠ b.exact then a.exact
  else if a.length ≠ b.length then b.length < a.length
  else b.required < a.required

def normalizePattern (pattern : String) : String := normalizeMethod (Text.trim pattern)

namespace Matcher

def ofPattern (pattern : String) : Matcher :=
  let text := normalizePattern pattern
  if text = "*" then .any
  else
    match text.toList.reverse with
    | '*' :: rest => .beginning (String.ofList rest.reverse)
    | '/' :: _ => .beginning text
    | _ => .exact text

/-- Whether a method matches exactly, and the length of what matched. -/
def fit? (method : String) : Matcher → Option (Bool × Nat)
  | .any => some (false, 0)
  | .exact text => if text = method then some (true, text.utf8ByteSize) else none
  | .beginning text =>
    if text.toList.isPrefixOf method.toList then some (false, text.utf8ByteSize) else none

end Matcher

structure CompiledRule where
  matcher : Matcher
  policy : Policy
  deriving DecidableEq

def Policy.satisfied (p : Policy) (ctx : Context) : Bool :=
  p.matchAttributes.all fun a => ctx.get? a.1 == some a.2

def CompiledRule.specificity? (r : CompiledRule) (method : String) (ctx : Context) :
    Option Specificity :=
  (r.matcher.fit? method).bind fun (exact, length) =>
    if r.policy.satisfied ctx then some ⟨exact, length, r.policy.matchAttributes.length⟩ else none

def sortPairs (pairs : List (String × String)) : List (String × String) :=
  pairs.mergeSort fun a b => if a.1 = b.1 then a.2 ≤ b.2 else a.1 ≤ b.1

namespace Config

def quotaFor (c : Config) (r : Rule) : Option Quota :=
  if c.rateLimiting.enabled && !r.disabled.contains .rateLimit then
    some (r.quota.getD c.rateLimiting.quota)
  else none

def thresholdsFor (c : Config) (r : Rule) : Option Thresholds :=
  if c.circuitBreaking.enabled && !r.disabled.contains .circuitBreaker then
    some (r.thresholds.getD c.circuitBreaking.thresholds)
  else none

def policyOf (c : Config) (r : Rule) : Policy where
  pattern := some (normalizePattern r.pattern)
  partition := r.partition
  keyAttributes := r.keyAttributes.map String.toLower
  matchAttributes := sortPairs (r.matchAttributes.map fun a => (a.1.toLower, a.2))
  quota := c.quotaFor r
  thresholds := c.thresholdsFor r
  tokenCost := r.tokenCost
  deadlineMs := r.deadlineMs.or c.defaultDeadlineMs

def defaultPolicy (c : Config) : Policy where
  pattern := none
  partition := .method
  keyAttributes := []
  matchAttributes := []
  quota := if c.rateLimiting.enabled then some c.rateLimiting.quota else none
  thresholds := if c.circuitBreaking.enabled then some c.circuitBreaking.thresholds else none
  tokenCost := 1
  deadlineMs := c.defaultDeadlineMs

end Config

structure Snapshot where
  version : Nat
  config : Config
  rules : List CompiledRule
  defaultPolicy : Policy
  deriving DecidableEq

namespace Snapshot

def ofConfig (version : Nat) (c : Config) : Snapshot where
  version
  config := c
  rules := c.rules.map fun r => ⟨.ofPattern r.pattern, c.policyOf r⟩
  defaultPolicy := c.defaultPolicy

instance : Inhabited Snapshot := ⟨ofConfig 1 .standard⟩

def compile (version : Nat) (c : Config) : Except (List Violation) Snapshot := do
  c.validate
  return ofConfig version c

def classifier (s : Snapshot) : Classifier := s.config.classifier

/-- The better of the best rule so far and another one, which has to be strictly better. -/
def better (method : String) (ctx : Context) (best : Option (Specificity × CompiledRule))
    (r : CompiledRule) : Option (Specificity × CompiledRule) :=
  match r.specificity? method ctx with
  | none => best
  | some score =>
    match best with
    | none => some (score, r)
    | some (top, _) => if score.beats top then some (score, r) else best

def resolve (s : Snapshot) (method : String) (ctx : Context) : Policy :=
  match s.rules.foldl (better (normalizeMethod method) ctx) none with
  | none => s.defaultPolicy
  | some (_, r) => r.policy

end Snapshot

namespace Policy

def keyBase (p : Policy) (method : String) : String :=
  match p.partition, p.pattern with
  | .pattern, some pattern => pattern
  | _, _ => normalizeMethod method

/-- The attribute values in a key: those that the policy asks for, and then the values that its rule
requires, as far as they are not among them. -/
def keySegments (p : Policy) (ctx : Context) : List String :=
  (p.keyAttributes.map fun a => (ctx.get? a).getD unknownAttribute) ++
  (p.matchAttributes.filter fun a => !p.keyAttributes.contains a.1).map (·.2)

def key (p : Policy) (method : String) (ctx : Context) : Key :=
  .ofSegments (p.keySegments ctx) (p.keyBase method)

end Policy

def Snapshot.extract (s : Snapshot) (method : String) (ctx : Context) : Key × Policy :=
  let policy := s.resolve method ctx
  (policy.key method ctx, policy)

end Turnstile
