import Freshness.Failure
import Freshness.Options
import Freshness.Verdict

/-!
# Checkers

A checker is called for the image of a container and goes on for some time. It may make the whole work
on the pod be cancelled, when it is called or when it is done. In the end it answers with a verdict,
without one or with a failure, or it never answers.
-/

namespace Freshness

/-- What a check ends with: no verdict yet, a verdict, or a failure. -/
inductive Answer where
  | pending
  | found (v : Verdict)
  | failed (f : CheckFailure)
  deriving DecidableEq, Repr

/-- How a check goes on once it is called: for `delay` milliseconds, where zero means that it does not
wait at all. Without an answer it never ends. -/
structure Conduct where
  cancelsFirst : Bool := false
  delay : Nat := 0
  cancelsLast : Bool := false
  answer : Option Answer := some .pending
  deriving DecidableEq, Repr

/-- A checker: how it goes on when it is called for a container with options, after a number of earlier
calls for containers of that name. -/
structure Checker where
  call : Container → Options → (earlier : Nat) → Conduct

/-! ## Checkers that follow a script -/

/-- What a script has a check end with. `made` is a verdict made up from the image of the container. -/
inductive ScriptedAnswer where
  | never
  | made
  | given (a : Answer)
  deriving DecidableEq, Repr

/-- One entry of a script. -/
structure ScriptedConduct where
  cancelsFirst : Bool := false
  delay : Nat := 0
  cancelsLast : Bool := false
  answer : ScriptedAnswer
  deriving DecidableEq, Repr

/-- What checks are to do, by the names of containers. The entries for a name are for one call after the
other, and the last one is for all later calls too. -/
structure Script where
  entries : List (String × List ScriptedConduct)
  deriving DecidableEq, Repr

namespace Script

/-- The name whose entries are for all containers without entries of their own. -/
def anyName : String := "*"

/-- The latest version that made-up verdicts tell of. -/
def madeLatest : String := "9.9.9"

/-- A verdict made up from an image: what stands before its first colon, and the version after it. -/
def madeVerdict (image : String) : Verdict :=
  let repository := image.toList.takeWhile (· != ':')
  let version := match image.toList.dropWhile (· != ':') with
    | [] => "latest"
    | _ :: tag => String.ofList tag
  { image := String.ofList repository
    currentVersion := version
    latestVersion := madeLatest
    isLatest := version == madeLatest
    os := "linux"
    architecture := "arm64" }

/-- The answer of an entry for a container. -/
def answerFor (c : Container) : ScriptedAnswer → Option Answer
  | .never => none
  | .made => some (.found (madeVerdict (c.image.getD "")))
  | .given a => some a

/-- The entry for a call. -/
def entry? (s : Script) (name : String) (earlier : Nat) : Option ScriptedConduct :=
  let own := (s.entries.lookup name).or (s.entries.lookup anyName)
  own.bind fun l => (l[earlier]?).or l.getLast?

/-- The checker that follows a script. Without an entry it has no verdict yet. -/
def checker (s : Script) : Checker where
  call c _ earlier :=
    match s.entry? c.name earlier with
    | none => {}
    | some e => ⟨e.cancelsFirst, e.delay, e.cancelsLast, answerFor c e.answer⟩

end Script

end Freshness
