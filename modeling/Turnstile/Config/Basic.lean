import Turnstile.Breaker.Basic
import Turnstile.Bucket
import Turnstile.Outcome
import Turnstile.Registry
/-!
The configuration of a guard: defaults for every call, and rules for the calls whose method matches
a pattern.
-/
namespace Turnstile

structure RateLimiting where
  enabled : Bool
  quota : Quota
  deriving DecidableEq

structure CircuitBreaking where
  enabled : Bool
  thresholds : Thresholds
  deriving DecidableEq

inductive Partition where
  | method
  | pattern
  deriving DecidableEq, Inhabited

inductive Concern where
  | rateLimit | circuitBreaker
  deriving DecidableEq, Inhabited

namespace Concern

def all : List Concern := [.rateLimit, .circuitBreaker]

def sorted (concerns : List Concern) : List Concern := all.filter concerns.contains

end Concern

structure Rule where
  /-- A method, a beginning of methods closed by a slash or a star, or a star alone for all. -/
  pattern : String
  partition : Partition
  keyAttributes : List String
  /-- Attributes that must have these values for the rule to apply, in the order of their names. -/
  matchAttributes : List (String × String)
  disabled : List Concern
  tokenCost : Nat
  quota : Option Quota
  thresholds : Option Thresholds
  deadlineMs : Option Nat
  deriving DecidableEq

def Rule.ofPattern (pattern : String) : Rule where
  pattern
  partition := .method
  keyAttributes := []
  matchAttributes := []
  disabled := []
  tokenCost := 1
  quota := none
  thresholds := none
  deadlineMs := none

structure Observability where
  logLevel : String
  jsonLogs : Bool
  metricsEnabled : Bool
  metricsAddress : String
  deriving DecidableEq

structure Config where
  rateLimiting : RateLimiting
  circuitBreaking : CircuitBreaking
  classifier : Classifier
  retention : Retention
  defaultDeadlineMs : Option Nat
  rules : List Rule
  observability : Observability
  deriving DecidableEq

def RateLimiting.standard : RateLimiting := ⟨true, .standard⟩
def CircuitBreaking.standard : CircuitBreaking := ⟨true, .standard⟩
def Observability.standard : Observability := ⟨"info", false, false, "0.0.0.0:9090"⟩

def Config.standard : Config where
  rateLimiting := .standard
  circuitBreaking := .standard
  classifier := .standard
  retention := .standard
  defaultDeadlineMs := none
  rules := []
  observability := .standard

instance : Inhabited Config := ⟨.standard⟩

end Turnstile
