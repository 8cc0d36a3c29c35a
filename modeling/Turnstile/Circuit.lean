/-!
States of a circuit and the changes between them.
-/
namespace Turnstile

inductive Circuit where
  | closed
  | open
  | halfOpen
  deriving DecidableEq, Inhabited

namespace Circuit

def name : Circuit → String
  | .closed => "closed"
  | .open => "open"
  | .halfOpen => "half-open"

def dataName : Circuit → String
  | .closed => "closed"
  | .open => "open"
  | .halfOpen => "half_open"

end Circuit

structure Transition where
  source : Circuit
  target : Circuit
  deriving DecidableEq, Inhabited

inductive Denial where
  | open
  | probePermitExhausted
  deriving DecidableEq, Inhabited

def Denial.label : Denial → String
  | .open => "Open"
  | .probePermitExhausted => "ProbePermitExhausted"

end Turnstile
