import Freshness.Sync.Event
import Freshness.Sync.Setup

/-!
# Turns of a container

The work on a container takes turns: it begins, it goes on when its check wakes, and it ends when its
deadline passes or the work on the pod is cancelled. A turn makes some events and leaves the container
with a check under way or at its end.

A check whose work on the pod is already cancelled is not called at all. A check that answers in a turn
is heard, even if it cancels the work on the pod in the same turn. A check that waits while its
deadline is due has passed its deadline.
-/

namespace Freshness.Sync

/-- What turns of the containers of a pod depend on. -/
structure Context where
  pod : PodId
  checker : Checker
  resolver : Resolver
  limits : Limits

/-- A check that is under way: how it goes on, when it wakes, and when its deadline passes. -/
structure Check where
  conduct : Conduct
  wake : Option Nat
  deadline : Option Nat
  deriving DecidableEq, Repr

/-- How far the work on a container has come. -/
inductive Progress where
  | waiting (c : Check)
  | ended (time : Nat) (e : Ending)
  deriving DecidableEq, Repr

/-- What a turn does: its events, and how far the container has come after it. -/
structure Turn where
  events : List Event
  progress : Progress

/-- A turn with events before its own. -/
def Turn.after (events : List Event) (t : Turn) : Turn := { t with events := events ++ t.events }

namespace Context

variable (ctx : Context)

/-- The place of a container in the store. -/
def key (c : Container) : Store.Key := ⟨ctx.pod, c.name⟩

/-! ## Endings -/

/-- What an answer makes of a container. -/
def endingOf (c : Container) : Answer → Ending
  | .pending => .pending
  | .found v => .recorded v
  | .failed f => if f.isNoVersionFound then .noVersionFound f else .failed (.check c.name f)

/-- The events of an ending: what is logged, what is stored, and what is counted. -/
def endingEvents (c : Container) (e : Ending) : List Event :=
  (match e with
    | .recorded v =>
      [.logged (.imageChecked (ctx.key c) v), .changed (.add ⟨ctx.key c, v⟩)]
    | .pending => [.logged .noVerdict]
    | .disabled => [.logged (.containerDisabled (ctx.key c)), .changed (.remove (ctx.key c))]
    | .noVersionFound f => [.logged (.noVersionFound (ctx.key c) f)]
    | .failed _ => []) ++ [.counted (.container e.outcome)]

/-- The turn in which a container ends. -/
def ending (now : Nat) (c : Container) (e : Ending) : Turn where
  events := ctx.endingEvents c e
  progress := .ended now e

/-- The turn in which a check ends with an answer. -/
def settle (now : Nat) (c : Container) (a : Answer) : Turn :=
  .after [.checkEnded a] (ctx.ending now c (endingOf c a))

/-- The deadline of a check has passed. The message tells the deadline as it was set. -/
def deadlinePassed : Answer :=
  .failed (.deadlineExceeded (ctx.limits.deadline.getD (.ofMillis 0)))

/-! ## Checks -/

/-- A check goes on waiting, unless its deadline is due. -/
def await (now : Nat) (c : Container) (check : Check) : Turn :=
  if check.deadline.any (· ≤ now) then ctx.settle now c ctx.deadlinePassed else ⟨[], .waiting check⟩

/-- The event of cancelling the work on the pod, if it is cancelled. -/
def cancelling (cancels : Bool) : List Event := if cancels then [.cancelled] else []

/-- A check is done with waiting: it replies, and ends if it has an answer. -/
def conclude (now : Nat) (c : Container) (check : Check) : Turn :=
  .after (cancelling check.conduct.cancelsLast ++ [.replied c.name])
    (match check.conduct.answer with
      | some a => ctx.settle now c a
      | none => ctx.await now c { check with wake := none })

/-- A check is called. -/
def callCheck (now : Nat) (c : Container) (options : Options) (earlier : Nat) : Turn :=
  let conduct := ctx.checker.call c options earlier
  let deadline := ctx.limits.deadline.map (now + ·.ceilMillis)
  .after (.checkCalled c options :: cancelling conduct.cancelsFirst)
    (if conduct.delay = 0 then ctx.conclude now c ⟨conduct, none, deadline⟩
      else ctx.await now c ⟨conduct, some (now + conduct.delay), deadline⟩)

/-- The check of a container whose options are known. -/
def check (now : Nat) (cancelled : Bool) (earlier : Nat) (c : Container) (options : Options) : Turn :=
  if cancelled then ctx.settle now c (.failed .cancelled) else ctx.callCheck now c options earlier

/-- The work on a container begins. -/
def start (now : Nat) (cancelled : Bool) (earlier : Nat) (c : Container) : Turn :=
  let byDefault := ctx.limits.checkByDefault
  let enabled := ctx.resolver.isEnabled byDefault c.name
  .after [.enablementAsked c.name byDefault enabled]
    (if enabled then
      .after [.optionsAsked c.name]
        (match ctx.resolver.options c.name with
          | .error issues => ctx.ending now c (.failed (.configuration c.name issues))
          | .ok options =>
            .after [.logged (.processing c.image)] (ctx.check now cancelled earlier c options))
    else ctx.ending now c .disabled)

end Context

end Freshness.Sync
