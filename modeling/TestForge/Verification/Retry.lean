/-!
# Attempts of a phase
-/

namespace TestForge

/-- How many attempts lie behind, of how many that are allowed. -/
structure RetryState where
  attempt : Nat
  maxRetries : Nat
  deriving DecidableEq

namespace RetryState

/-- At least one attempt is allowed. -/
def start (maxRetries : UInt32) : RetryState :=
  ⟨0, max maxRetries.toNat 1⟩

def isLast (s : RetryState) : Bool :=
  s.attempt + 1 ≥ s.maxRetries

def next (s : RetryState) : RetryState :=
  { s with attempt := s.attempt + 1 }

end RetryState

end TestForge
