import Freshness.Duration

/-!
# The policy of the program

The policy holds for all pods: whether a container without an annotation is checked, how long a check
may take, and how many checks of a pod may run at a time.
-/

namespace Freshness

/-- Whether, for how long and how many at a time containers are checked. -/
structure Policy where
  checkByDefault : Bool := false
  timeoutSeconds : Option UInt64 := none
  maxConcurrent : UInt64 := 1
  deriving DecidableEq, Repr, Inhabited

namespace Policy

/-- The time that a check may take. Zero seconds mean that there is no limit. -/
def deadline (p : Policy) : Option Duration :=
  (p.timeoutSeconds.filter (0 < ·)).map fun s => .ofSeconds s.toNat

/-- The number of checks that may run at a time: at least one. -/
def concurrency (p : Policy) : Nat := max 1 p.maxConcurrent.toNat

/-- The three parts of a policy. -/
inductive Item where
  | checkByDefault
  | timeoutSeconds
  | maxConcurrent
  deriving DecidableEq, Repr

/-- The name of a part where policies are written down. -/
def Item.name : Item → String
  | checkByDefault => "default_test_all"
  | timeoutSeconds => "check_timeout_secs"
  | maxConcurrent => "max_concurrent_checks"

end Policy

end Freshness
