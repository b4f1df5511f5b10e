import Freshness.Sync.State

/-!
# Work on pods

`Session.sync` does the work on one pod: it takes the course of the work to its end, puts the changes
into the store, and reports what came of it. A session works on one pod after the other; it carries
the store and the calls of the checker from one pod to the next.
-/

namespace Freshness.Sync

/-- When the work on a pod is cancelled from outside: before it begins, or so many milliseconds after. -/
inductive Cancellation where
  | before
  | after (millis : Nat)
  deriving DecidableEq, Repr

/-- A pod to work on, and when the work is cancelled, if it is. -/
structure Task where
  pod : Pod
  cancellation : Option Cancellation := none
  deriving DecidableEq, Repr

/-- What came of the work on a pod: how each container ended, unless the work never came to its end, and
everything that happened. -/
structure Report where
  pod : PodId
  endings : Option (List Ending)
  trace : List Moment

namespace Report

/-- The failures of the containers, in the order of the containers. -/
def failuresOf (endings : List Ending) : List ContainerFailure := endings.filterMap (·.failure?)

/-- The failure of the pod, if there is one. -/
def failure? (r : Report) : Option PodFailure :=
  r.endings.bind fun es => PodFailure.ofFailures? r.pod (failuresOf es)

/-- Everything that was counted. -/
def counters (r : Report) : Counters := ⟨r.trace.filterMap (·.event.observation?)⟩

/-- The changes of the store. -/
def changes (r : Report) : List Store.Change := r.trace.filterMap (·.event.change?)

end Report

/-! ## From the start to the report -/

/-- What the turns of the containers of a pod depend on. -/
def Setup.context (s : Setup) (p : Pod) : Context where
  pod := p.id
  checker := s.checker
  resolver := s.resolver p.annotations
  limits := s.limits

/-- The course before anything has happened, unless the work was cancelled before. -/
def Task.initial (t : Task) : State where
  now := 0
  cancelAt := match t.cancellation with
    | some (.after ms) => some ms
    | _ => none
  span := Log.podSpan t.pod.id
  entered := []
  slots := []
  queue := t.pod.containers
  trace := match t.cancellation with
    | some .before => [⟨0, none, [], .cancelled⟩]
    | _ => []

/-- The course before anything has happened but that a resolver was made. -/
def Task.start (t : Task) : State := t.initial.recordPod [.resolverMade t.pod.annotations]

/-- How every container ended, if all did. -/
def State.endings? (s : State) : Option (List Ending) :=
  if s.queue.isEmpty then s.slots.mapM (·.ending?) else none

/-- What happens once every container has ended: the pod is counted, and its failure is logged. -/
def closing (pod : PodId) (now : Nat) (endings : List Ending) : List Event :=
  let failure? := PodFailure.ofFailures? pod (Report.failuresOf endings)
  .counted (.pod failure?.isNone (.ofRatio false now 1000))
    :: failure?.toList.map fun f => .logged (.podFailed f)

/-- The report on a course that has come to where nothing can happen any more. -/
def State.report (pod : PodId) (s : State) : Report where
  pod := pod
  endings := s.endings?
  trace := (s.recordPod ((s.endings?.map (closing pod s.now)).getD [])).trace

/-- The report on the work on a pod, after `earlier` calls for each name in earlier work. -/
def Setup.report (s : Setup) (earlier : String → Nat) (t : Task) : Report :=
  ((s.context t.pod).run earlier t.start).report t.pod.id

/-! ## The store -/

/-- The log record of the store about a change, as an event. -/
def storeNotice (s : Store) (c : Store.Change) : List Event :=
  (s.alreadyAbsent? c).toList.map fun e => .logged (.seriesAbsent e)

/-- The store after the changes of a trace, and the trace with what the store logs about them, each within the
spans that are entered when the change is made. -/
def throughStore : Store → List Moment → Store × List Moment
  | s, [] => (s, [])
  | s, m :: rest =>
    match m.event.change? with
    | none => let (final, trace) := throughStore s rest; (final, m :: trace)
    | some c =>
      let (final, trace) := throughStore (s.apply c) rest
      (final, m :: (storeNotice s c).map (fun e => ⟨m.time, m.position, m.spans, e⟩) ++ trace)

theorem throughStore_fst (s : Store) (trace : List Moment) :
    (throughStore s trace).1 = s.applyAll (trace.filterMap (·.event.change?)) := by
  induction trace generalizing s with
  | nil => rfl
  | cons m rest ih =>
    simp only [throughStore, List.filterMap_cons]
    split
    · rename_i h; simp only [h]; exact ih s
    · rename_i c h; simp only [h]; exact ih (s.apply c)

/-! ## Sessions -/

/-- What is carried from the work on one pod to the next: the store, and the names of the containers for
which checks were called. -/
structure Session where
  store : Store
  called : List String

/-- The name of the container for which an event calls a check. -/
def Event.calledName? : Event → Option String
  | checkCalled c _ => some c.name
  | _ => none

namespace Session

/-- The session before any work. -/
def start (s : Setup) : Session := ⟨s.store, []⟩

/-- The work on a pod: the session after it, and the report, with the log records of the store. -/
def sync (setup : Setup) (s : Session) (t : Task) : Session × Report :=
  let r := setup.report (fun name => s.called.count name) t
  let (store, trace) := throughStore s.store r.trace
  (⟨store, s.called ++ r.trace.filterMap (·.event.calledName?)⟩, { r with trace := trace })

/-- The work on several pods, one after the other: the last session, and the report on each pod with the
store after it. -/
def syncAll (setup : Setup) : Session → List Task → Session × List (Report × Store)
  | s, [] => (s, [])
  | s, t :: rest =>
    let (next, r) := s.sync setup t
    let (final, reports) := syncAll setup next rest
    (final, (r, next.store) :: reports)

end Session

end Freshness.Sync
