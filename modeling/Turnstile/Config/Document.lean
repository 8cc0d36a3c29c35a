import Turnstile.Config.Basic
import Turnstile.Data.Decode
/-!
Configurations as data: what each part looks like in a document, read and written. A part that is
not given is as in the standard configuration; only the pattern of a rule must be there.
-/
namespace Turnstile

def Code.variants : List (String × Code) := Code.all.map fun c => (c.name, c)

def Partition.variants : List (String × Partition) :=
  [("method", .method), ("pattern", .pattern)]

def Partition.name : Partition → String
  | .method => "method"
  | .pattern => "pattern"

def Concern.name : Concern → String
  | .rateLimit => "rate_limit"
  | .circuitBreaker => "circuit_breaker"

def Concern.variants : List (String × Concern) := Concern.all.map fun c => (c.name, c)

namespace Quota

def recordFields : List (RecordField Quota) :=
  [.of "capacity" Data.toInt64 fun v q => { q with capacity := v },
   .of "refill_tokens" Data.toInt64 fun v q => { q with refillTokens := v },
   .of "refill_interval_ms" Data.toNat64 fun v q => { q with refillIntervalMs := v }]

def ofData (format : DataFormat) : Data → Decoded Quota :=
  Data.toRecord format "Quota" recordFields .standard

def toData (q : Quota) : Data :=
  .table [("capacity", .int q.capacity), ("refill_tokens", .int q.refillTokens),
    ("refill_interval_ms", .ofNat q.refillIntervalMs)]

end Quota

namespace Thresholds

def recordFields : List (RecordField Thresholds) :=
  [.of "failure_rate_threshold" Data.toFloat fun v t => { t with failureRate := v },
   .of "slow_call_rate_threshold" Data.toFloat fun v t => { t with slowCallRate := v },
   .of "slow_call_duration_ms" (Data.toOption Data.toNat64) fun v t => { t with slowCallMs := v },
   .of "sliding_window_size" Data.toSize fun v t => { t with windowSize := v },
   .of "minimum_number_of_calls" Data.toSize fun v t => { t with minimumCalls := v },
   .of "wait_duration_in_open_state_ms" Data.toNat64 fun v t => { t with cooldownMs := v },
   .of "permitted_calls_in_half_open" Data.toSize fun v t => { t with probePermits := v },
   .of "success_threshold" Data.toSize fun v t => { t with successThreshold := v },
   .of "probe_grace_ms" Data.toNat64 fun v t => { t with probeGraceMs := v }]

def ofData (format : DataFormat) : Data → Decoded Thresholds :=
  Data.toRecord format "BreakerThresholds" recordFields .standard

def toData (t : Thresholds) : Data :=
  .table [("failure_rate_threshold", .float t.failureRate),
    ("slow_call_rate_threshold", .float t.slowCallRate),
    ("slow_call_duration_ms", .ofOption .ofNat t.slowCallMs),
    ("sliding_window_size", .ofNat t.windowSize),
    ("minimum_number_of_calls", .ofNat t.minimumCalls),
    ("wait_duration_in_open_state_ms", .ofNat t.cooldownMs),
    ("permitted_calls_in_half_open", .ofNat t.probePermits),
    ("success_threshold", .ofNat t.successThreshold),
    ("probe_grace_ms", .ofNat t.probeGraceMs)]

end Thresholds

namespace RateLimiting

def recordFields (format : DataFormat) : List (RecordField RateLimiting) :=
  [.of "enabled" Data.toBool fun v r => { r with enabled := v },
   .of "default" (Quota.ofData format) fun v r => { r with quota := v }]

def ofData (format : DataFormat) : Data → Decoded RateLimiting :=
  Data.toRecord format "RateLimitConfig" (recordFields format) .standard

def toData (r : RateLimiting) : Data :=
  .table [("enabled", .bool r.enabled), ("default", r.quota.toData)]

end RateLimiting

namespace CircuitBreaking

def recordFields (format : DataFormat) : List (RecordField CircuitBreaking) :=
  [.of "enabled" Data.toBool fun v c => { c with enabled := v },
   .of "default" (Thresholds.ofData format) fun v c => { c with thresholds := v }]

def ofData (format : DataFormat) : Data → Decoded CircuitBreaking :=
  Data.toRecord format "CircuitBreakerConfig" (recordFields format) .standard

def toData (c : CircuitBreaking) : Data :=
  .table [("enabled", .bool c.enabled), ("default", c.thresholds.toData)]

end CircuitBreaking

namespace Classifier

def readCodes (format : DataFormat) (d : Data) : Decoded (List Code) :=
  (d.toList (Data.toVariant format Code.variants)).map Code.sorted

def recordFields (format : DataFormat) : List (RecordField Classifier) :=
  [.of "failure_codes" (readCodes format) fun v c => { c with failureCodes := v },
   .of "ignored_codes" (readCodes format) fun v c => { c with ignoredCodes := v }]

def ofData (format : DataFormat) : Data → Decoded Classifier :=
  Data.toRecord format "ClassifierConfig" (recordFields format) .standard

def toData (c : Classifier) : Data :=
  .table [("failure_codes", .strings (c.failureCodes.map Code.name)),
    ("ignored_codes", .strings (c.ignoredCodes.map Code.name))]

end Classifier

namespace Retention

def recordFields : List (RecordField Retention) :=
  [.of "idle_eviction_secs" Data.toNat64 fun v r => { r with idleEvictionSecs := v },
   .of "sweep_interval_secs" Data.toNat64 fun v r => { r with sweepIntervalSecs := v },
   .of "max_keys" Data.toSize fun v r => { r with maxKeys := v }]

def ofData (format : DataFormat) : Data → Decoded Retention :=
  Data.toRecord format "RegistryConfig" recordFields .standard

def toData (r : Retention) : Data :=
  .table [("idle_eviction_secs", .ofNat r.idleEvictionSecs),
    ("sweep_interval_secs", .ofNat r.sweepIntervalSecs), ("max_keys", .ofNat r.maxKeys)]

end Retention

namespace Rule

/-- The pattern comes first: it is the one field that a rule cannot do without. -/
def recordFields (format : DataFormat) : List (RecordField (Option String × Rule)) :=
  [.of "pattern" Data.toText fun v r => (some v, { r.2 with pattern := v }),
   .of "partition" (Data.toVariant format Partition.variants) fun v r =>
     (r.1, { r.2 with partition := v }),
   .of "key_attributes" (Data.toList Data.toText) fun v r => (r.1, { r.2 with keyAttributes := v }),
   .of "match_attributes" Data.toTextMap fun v r => (r.1, { r.2 with matchAttributes := v }),
   .of "disabled" (Data.toList (Data.toVariant format Concern.variants)) fun v r =>
     (r.1, { r.2 with disabled := Concern.sorted v }),
   .of "token_cost" Data.toNat32 fun v r => (r.1, { r.2 with tokenCost := v }),
   .of "rate_limit" (Data.toOption (Quota.ofData format)) fun v r => (r.1, { r.2 with quota := v }),
   .of "circuit_breaker" (Data.toOption (Thresholds.ofData format)) fun v r =>
     (r.1, { r.2 with thresholds := v }),
   .of "deadline_ms" (Data.toOption Data.toNat64) fun v r => (r.1, { r.2 with deadlineMs := v })]

def ofData (format : DataFormat) (d : Data) : Decoded Rule :=
  match d with
  | .list [] => .error (.invalidLength 0 "struct PolicyRule with 9 elements")
  | d => do
    let (pattern, rule) ← d.toRecord format "PolicyRule" (recordFields format) (none, .ofPattern "")
    if pattern.isNone then .error (.missingField "pattern") else return rule

def toData (r : Rule) : Data :=
  .table [("pattern", .string r.pattern), ("partition", .string r.partition.name),
    ("key_attributes", .strings r.keyAttributes),
    ("match_attributes", .table (r.matchAttributes.map fun a => (a.1, .string a.2))),
    ("disabled", .strings (r.disabled.map Concern.name)), ("token_cost", .ofNat r.tokenCost),
    ("rate_limit", .ofOption Quota.toData r.quota),
    ("circuit_breaker", .ofOption Thresholds.toData r.thresholds),
    ("deadline_ms", .ofOption .ofNat r.deadlineMs)]

end Rule

namespace Observability

def recordFields : List (RecordField Observability) :=
  [.of "log_level" Data.toText fun v o => { o with logLevel := v },
   .of "json_logs" Data.toBool fun v o => { o with jsonLogs := v },
   .of "metrics_enabled" Data.toBool fun v o => { o with metricsEnabled := v },
   .of "metrics_address" Data.toText fun v o => { o with metricsAddress := v }]

def ofData (format : DataFormat) : Data → Decoded Observability :=
  Data.toRecord format "ObservabilityConfig" recordFields .standard

def toData (o : Observability) : Data :=
  .table [("log_level", .string o.logLevel), ("json_logs", .bool o.jsonLogs),
    ("metrics_enabled", .bool o.metricsEnabled), ("metrics_address", .string o.metricsAddress)]

end Observability

namespace Config

def recordFields (format : DataFormat) : List (RecordField Config) :=
  [.of "rate_limit" (RateLimiting.ofData format) fun v c => { c with rateLimiting := v },
   .of "circuit_breaker" (CircuitBreaking.ofData format) fun v c => { c with circuitBreaking := v },
   .of "classifier" (Classifier.ofData format) fun v c => { c with classifier := v },
   .of "registry" (Retention.ofData format) fun v c => { c with retention := v },
   .of "default_deadline_ms" (Data.toOption Data.toNat64) fun v c =>
     { c with defaultDeadlineMs := v },
   .of "policies" (Data.toList (Rule.ofData format)) fun v c => { c with rules := v },
   .of "observability" (Observability.ofData format) fun v c => { c with observability := v }]

def ofData (format : DataFormat) : Data → Decoded Config :=
  Data.toRecord format "GuardConfig" (recordFields format) .standard

def toData (c : Config) : Data :=
  .table [("rate_limit", c.rateLimiting.toData), ("circuit_breaker", c.circuitBreaking.toData),
    ("classifier", c.classifier.toData), ("registry", c.retention.toData),
    ("default_deadline_ms", .ofOption .ofNat c.defaultDeadlineMs),
    ("policies", .list (c.rules.map Rule.toData)), ("observability", c.observability.toData)]

end Config
end Turnstile
