/-!
# Starting the log

The log of a program is started once, in one of two formats. Whoever starts it again is told that it is
already written somewhere, and the format stays as it is.
-/

namespace Freshness.Log

/-- How records are written. -/
inductive Format where
  | json
  | plain
  deriving DecidableEq, Repr

/-- The log is already written somewhere. -/
structure AlreadyStarted where
  deriving DecidableEq, Repr

/-- The message about a log that is already written somewhere. -/
def AlreadyStarted.message (_ : AlreadyStarted) : String :=
  "a global default trace dispatcher has already been set"

/-- Starting the log when it may already be written in a format. The first start decides. -/
def start (current : Option Format) (f : Format) : Except AlreadyStarted Unit × Option Format :=
  match current with
  | none => (.ok (), some f)
  | some g => (.error ⟨⟩, some g)

/-- Starting the log several times: what came of each start, and the format in the end. -/
def startAll (current : Option Format) : List Format → List (Except AlreadyStarted Unit) × Option Format
  | [] => ([], current)
  | f :: fs =>
    let (result, next) := start current f
    let (results, final) := startAll next fs
    (result :: results, final)

end Freshness.Log
