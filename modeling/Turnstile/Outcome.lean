import Turnstile.Status
/-!
Outcomes of calls and their classification. Only a failure that the callee answers for counts
against it; what a guard turned away is always ignored.
-/
namespace Turnstile

inductive Outcome where
  | success | failure | ignored
  deriving DecidableEq, Inhabited

def Outcome.name : Outcome → String
  | .success => "success"
  | .failure => "failure"
  | .ignored => "ignored"

/-- The two sets of codes that classification goes by, each in the order of the codes' numbers. -/
structure Classifier where
  failureCodes : List Code
  ignoredCodes : List Code
  deriving DecidableEq, Inhabited

namespace Classifier

def standard : Classifier where
  failureCodes := [.deadlineExceeded, .internal, .unavailable]
  ignoredCodes := [.cancelled, .invalidArgument]

def classify (c : Classifier) (s : CallStatus) : Outcome :=
  if s.origin = .guard then .ignored
  else if s.origin = .caller ∧ s.code ∈ c.ignoredCodes then .ignored
  else if s.code ∈ c.failureCodes then .failure
  else .success

theorem classify_guard (c : Classifier) (code : Code) :
    c.classify ⟨code, .guard⟩ = .ignored := rfl

end Classifier
end Turnstile
