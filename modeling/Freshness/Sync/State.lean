import Freshness.Sync.Turn

/-!
# The course of the work on a pod

The containers of a pod are worked on in their order, within a window: a container begins when the
first container that is not at its end is fewer places ahead than the window is wide. Each step of the
course lets one thing happen. A check that is under way when the work is cancelled ends first; then a check
that is due by now takes its turn, since it was woken before the window got its room; then the next container
begins if the window has room; otherwise the clock goes on to the next time at which something is due. Of
things due at one time a cancellation from outside comes first, the containers follow in their order, and a
check wakes before its own deadline passes.

Work enters the span of the pod, and within it that of a container, for as long as a turn of the container
lasts, and leaves both at its end; what happens, happens within the spans that are entered just then.

Every step brings the course nearer to its end: `State.measure` counts what can still happen.
-/

namespace Freshness.Sync

/-- A container that has begun: the span of the work on it, when it began, and how far it has come. -/
structure Slot where
  container : Container
  span : Log.Span
  begun : Nat
  progress : Progress
  deriving DecidableEq, Repr

/-- Where the course of the work on a pod stands. The work has a span, and is within the spans that are
entered, the outermost first. -/
structure State where
  now : Nat
  cancelAt : Option Nat
  span : Log.Span
  entered : List Log.Span
  slots : List Slot
  queue : List Container
  trace : List Moment

/-- What is due next. -/
inductive Due where
  | cancellation
  | waking (position : Nat) (slot : Slot) (check : Check)
  | deadline (position : Nat) (slot : Slot)
  deriving DecidableEq, Repr

/-- Whether what is due is a turn of a check. -/
def Due.isCheck : Due → Bool
  | cancellation => false
  | waking _ _ _ => true
  | deadline _ _ => true

namespace Slot

/-- The check that is under way in a slot. -/
def check? (s : Slot) : Option Check :=
  match s.progress with
  | .waiting c => some c
  | .ended _ _ => none

/-- Whether a check is under way in a slot. -/
def isWaiting (s : Slot) : Bool := s.check?.isSome

/-- How the work on a container ended. -/
def ending? (s : Slot) : Option Ending :=
  match s.progress with
  | .waiting _ => none
  | .ended _ e => some e

/-- The number of things that can still happen in a slot. -/
def weight (s : Slot) : Nat :=
  match s.progress with
  | .waiting c => if c.wake.isSome then 2 else 1
  | .ended _ _ => 0

/-- The number of things that can still happen in several slots. -/
def totalWeight : List Slot → Nat
  | [] => 0
  | s :: rest => s.weight + totalWeight rest

/-- What is due in a slot, and when. -/
def due? (position : Nat) (s : Slot) : Option (Nat × Due) :=
  s.check?.bind fun c =>
    match c.wake, c.deadline with
    | some w, some d =>
      if w ≤ d then some (w, .waking position s c) else some (d, .deadline position s)
    | some w, none => some (w, .waking position s c)
    | none, some d => some (d, .deadline position s)
    | none, none => none

end Slot

/-- The earliest of several things that are due, the first of those due at one time. -/
def earliest? : List (Nat × Due) → Option (Nat × Due)
  | [] => none
  | d :: ds =>
    match earliest? ds with
    | none => some d
    | some e => if e.1 < d.1 then some e else some d

namespace State

/-- Whether the work on the pod is cancelled. -/
def cancelled (s : State) : Bool := s.trace.any (·.event.isCancellation)

/-- The number of calls of checks for containers of a name. -/
def callsFor (s : State) (name : String) : Nat := s.trace.countP (·.event.isCallFor name)

/-- The position of the first container that is not at its end. -/
def head (s : State) : Nat := s.slots.findIdx (·.isWaiting)

/-- Whether the window has room for one more container. -/
def hasRoom (s : State) (concurrency : Nat) : Bool := decide (s.slots.length < s.head + concurrency)

/-- The trace goes on with events, within the spans that are entered. -/
def record (s : State) (position : Option Nat) (events : List Event) : State :=
  { s with trace := s.trace ++ events.map fun e => ⟨s.now, position, s.entered, e⟩ }

/-- The work goes on within one more span. -/
def enter (s : State) (span : Log.Span) : State := { s with entered := s.entered ++ [span] }

/-- The work leaves the innermost span. -/
def leave (s : State) : State := { s with entered := s.entered.dropLast }

/-- The trace goes on with events of the pod as a whole, within the span of the work on it. -/
def recordPod (s : State) (events : List Event) : State := ((s.enter s.span).record none events).leave

/-- The trace goes on with events of a container, within the span of the work on it, which is entered within
that of the pod. -/
def recordSlot (s : State) (position : Nat) (slot : Slot) (events : List Event) : State :=
  (((s.enter s.span).enter slot.span).record position events).leave.leave

theorem trace_recordPod (s : State) (events : List Event) :
    (s.recordPod events).trace = s.trace ++ events.map fun e => ⟨s.now, none, s.entered ++ [s.span], e⟩ := rfl

@[simp] theorem queue_recordSlot (s : State) (position : Nat) (slot : Slot) (events : List Event) :
    (s.recordSlot position slot events).queue = s.queue := rfl

@[simp] theorem cancelAt_recordSlot (s : State) (position : Nat) (slot : Slot) (events : List Event) :
    (s.recordSlot position slot events).cancelAt = s.cancelAt := rfl

/-- The container at a position takes a turn. -/
def turn (s : State) (position : Nat) (slot : Slot) (t : Turn) : State :=
  { s.recordSlot position slot t.events with
    slots := s.slots.set position { slot with progress := t.progress } }

/-- The next container begins. -/
def begin (s : State) (slot : Slot) (rest : List Container) (t : Turn) : State :=
  { s.recordSlot s.slots.length slot t.events with
    slots := s.slots ++ [{ slot with progress := t.progress }]
    queue := rest }

/-- The first container whose check is under way, with its position. -/
def firstWaiting? (s : State) : Option (Nat × Slot) :=
  (s.slots.zipIdx.find? (·.1.isWaiting)).map fun (slot, i) => (i, slot)

/-- Everything that is due, and when. -/
def allDue (s : State) : List (Nat × Due) :=
  (s.cancelAt.map fun t => (t, Due.cancellation)).toList
    ++ s.slots.zipIdx.filterMap fun (slot, i) => slot.due? i

/-- What is due next, if it is a turn of a check and due by now. -/
def dueNow? (s : State) : Option (Nat × Due) :=
  (earliest? s.allDue).filter fun d => decide (d.1 ≤ s.now) && d.2.isCheck

/-- The number of things that can still happen. -/
def measure (s : State) : Nat :=
  3 * s.queue.length + Slot.totalWeight s.slots + s.cancelAt.toList.length

/-- Whether every container is at its end. -/
def isDone (s : State) : Bool := s.queue.isEmpty && s.slots.all (!·.isWaiting)

end State

namespace Context

variable (ctx : Context)

/-- The course when the clock has gone on to a time at which something is due. -/
def happen (s : State) (time : Nat) (due : Due) : State :=
  let s := { s with now := time }
  match due with
  | .cancellation => { s.record none [.cancelled] with cancelAt := none }
  | .waking position slot check => s.turn position slot (ctx.conclude time slot.container check)
  | .deadline position slot =>
    s.turn position slot (ctx.settle time slot.container ctx.deadlinePassed)

/-- The course after the next container has begun, after `earlier` calls for its name in earlier
work. -/
def beginNext (earlier : String → Nat) (s : State) (c : Container) (rest : List Container) : State :=
  let t := ctx.start s.now s.cancelled (earlier c.name + s.callsFor c.name) c
  s.begin ⟨c, Log.containerSpan c.name, s.now, t.progress⟩ rest t

/-- One step of the course, unless nothing can happen any more. -/
def step? (earlier : String → Nat) (s : State) : Option State :=
  match (if s.cancelled then s.firstWaiting? else none) with
  | some (position, slot) =>
    some (s.turn position slot (ctx.settle s.now slot.container (.failed .cancelled)))
  | none =>
    match s.dueNow? with
    | some (time, due) => some (ctx.happen s time due)
    | none =>
      match s.queue with
      | c :: rest =>
        if s.hasRoom ctx.limits.concurrency then some (ctx.beginNext earlier s c rest)
        else (earliest? s.allDue).map fun (time, due) => ctx.happen s time due
      | [] =>
        if s.isDone then none
        else (earliest? s.allDue).map fun (time, due) => ctx.happen s time due

/-- The course after at most a number of steps. -/
def steps (earlier : String → Nat) : Nat → State → State
  | 0, s => s
  | n + 1, s =>
    match ctx.step? earlier s with
    | none => s
    | some next => steps earlier n next

/-- The course to where nothing can happen any more. -/
def run (earlier : String → Nat) (s : State) : State := ctx.steps earlier s.measure s

end Context

end Freshness.Sync
