import Freshness.Checker
import Freshness.Counters
import Freshness.Log.Notice

/-!
# What happens to a pod

Work on a pod leaves a trace: everything that happened, in order, each at its time and within the spans that
the work had entered. What belongs to a container carries the position of the container within the pod.
-/

namespace Freshness.Sync

/-- Something that happens. The work on the pod is cancelled from outside or by a check. A check ends
with what it replied, or because it is given up or passes its deadline. -/
inductive Event where
  | resolverMade (a : Annotations)
  | enablementAsked (container : String) (byDefault answer : Bool)
  | optionsAsked (container : String)
  | checkCalled (container : Container) (options : Options)
  | cancelled
  | replied (container : String)
  | checkEnded (a : Answer)
  | changed (c : Store.Change)
  | counted (o : Observation)
  | logged (r : Log.Record)

namespace Event

/-- Whether an event cancels the work on the pod. -/
def isCancellation : Event → Bool
  | cancelled => true
  | _ => false

/-- Whether an event is the call of a check for a container of that name. -/
def isCallFor (name : String) : Event → Bool
  | checkCalled c _ => c.name == name
  | _ => false

/-- The change of the store that an event is. -/
def change? : Event → Option Store.Change
  | changed c => some c
  | _ => none

/-- The observation that an event is. -/
def observation? : Event → Option Observation
  | counted o => some o
  | _ => none

end Event

/-- Something that happens, at a time in milliseconds, to the container at a position or to the pod as a
whole, within the spans that are entered at that moment, the outermost first. -/
structure Moment where
  time : Nat
  position : Option Nat
  spans : List Log.Span
  event : Event

/-- How the work on a container ends. -/
inductive Ending where
  | recorded (v : Verdict)
  | pending
  | disabled
  | noVersionFound (f : CheckFailure)
  | failed (f : ContainerFailure)
  deriving DecidableEq, Repr

namespace Ending

/-- The failure that an ending is, if it is one. -/
def failure? : Ending → Option ContainerFailure
  | failed f => some f
  | _ => none

/-- What an ending is counted as. -/
def outcome : Ending → Outcome
  | recorded _ => .recorded
  | pending => .pending
  | disabled => .disabled
  | noVersionFound _ => .noVersionFound
  | failed (.configuration _ _) => .configurationError
  | failed (.check _ _) => .checkFailed

end Ending

end Freshness.Sync
