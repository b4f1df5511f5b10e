import Freshness.Number.Binary64

/-!
# Counters

The program counts how its work ends: every container ends with one of six outcomes, and every pod
succeeds or fails after some time. The counters are views of the list of everything observed.
-/

namespace Freshness

/-- How the work on a container ends. -/
inductive Outcome where
  | recorded
  | pending
  | disabled
  | noVersionFound
  | configurationError
  | checkFailed
  deriving DecidableEq, Repr

namespace Outcome

/-- All outcomes, in the order of their labels. -/
def all : List Outcome :=
  [checkFailed, configurationError, disabled, noVersionFound, pending, recorded]

/-- The label of an outcome. -/
def label : Outcome → String
  | recorded => "recorded"
  | pending => "pending"
  | disabled => "disabled"
  | noVersionFound => "no_version_found"
  | configurationError => "configuration_error"
  | checkFailed => "check_failed"

/-- The outcome with a label. -/
def ofLabel? (label : String) : Option Outcome := all.find? (·.label == label)

end Outcome

/-- Something that is counted: the end of the work on a container, or on a pod after some seconds. -/
inductive Observation where
  | container (outcome : Outcome)
  | pod (success : Bool) (seconds : Binary64)
  deriving DecidableEq, Repr

/-- What has been counted. -/
structure Counters where
  observations : List Observation
  deriving DecidableEq, Repr

namespace Counters

/-- Counters before anything was counted. -/
def empty : Counters := ⟨[]⟩

/-- Counters after one more observation. -/
def observe (c : Counters) (o : Observation) : Counters := ⟨c.observations ++ [o]⟩

/-- The number of containers with an outcome. -/
def outcome (c : Counters) (o : Outcome) : Nat := c.observations.count (.container o)

/-- The number of pods that succeeded, or that failed. -/
def pods (c : Counters) (success : Bool) : Nat :=
  c.observations.countP fun
    | .pod s _ => s == success
    | .container _ => false

/-- The latencies of all pods, in seconds. -/
def latencies (c : Counters) : List Binary64 :=
  c.observations.filterMap fun
    | .pod _ seconds => some seconds
    | .container _ => none

/-- The number of latencies. -/
def latencyCount (c : Counters) : Nat := c.latencies.length

/-- The number of latencies up to a bound. -/
def atMost (c : Counters) (bound : Binary64) : Nat := c.latencies.countP (·.le bound)

/-- The bounds of the latency buckets, in seconds, with their texts. -/
def bounds : List (String × Binary64) :=
  [("0.005", .ofDecimal false 5 (-3)), ("0.01", .ofDecimal false 1 (-2)),
    ("0.025", .ofDecimal false 25 (-3)), ("0.05", .ofDecimal false 5 (-2)),
    ("0.1", .ofDecimal false 1 (-1)), ("0.25", .ofDecimal false 25 (-2)),
    ("0.5", .ofDecimal false 5 (-1)), ("1", .ofDecimal false 1 0),
    ("2.5", .ofDecimal false 25 (-1)), ("5", .ofDecimal false 5 0),
    ("10", .ofDecimal false 10 0), ("30", .ofDecimal false 30 0)]

/-- The number of latencies up to each bound. -/
def buckets (c : Counters) : List (String × Nat) :=
  bounds.map fun (text, bound) => (text, c.atMost bound)

/-! ## The counters as families of series -/

/-- What kind of numbers a family shows. -/
inductive FamilyKind where
  | counter
  | histogram
  deriving DecidableEq, Repr

/-- A family of series: its name, what it is about, and the labels of each series. -/
structure Family where
  name : String
  help : String
  kind : FamilyKind
  series : List (List (String × String))
  deriving DecidableEq, Repr

/-- The families of the counters, in the order of their names. Every outcome and every result has a
series. -/
def families : List Family :=
  [⟨"version_sync_container_outcomes_total", "Container reconciliations, by outcome", .counter,
      Outcome.all.map fun o => [("outcome", o.label)]⟩,
    ⟨"version_sync_pods_reconciled_total", "Pods reconciled, by result", .counter,
      [[("result", "failure")], [("result", "success")]]⟩,
    ⟨"version_sync_reconcile_latency_seconds", "Time spent reconciling all containers of a pod",
      .histogram, [[]]⟩]

end Counters

end Freshness
