/-!
# Log records

Work on pods leaves records in a log. A record has a level, the part of the program that it comes
from, a message and named fields. It is made inside spans: one for the pod and one for the container
that is being worked on.
-/

namespace Freshness.Log

/-- How grave a record is, from the gravest on. -/
inductive Level where
  | error
  | warn
  | info
  | debug
  | trace
  deriving DecidableEq, Repr

namespace Level

/-- The word for a level. -/
def text : Level → String
  | error => "ERROR"
  | warn => "WARN"
  | info => "INFO"
  | debug => "DEBUG"
  | trace => "TRACE"

/-- How much is let through by a threshold at a level: more the less grave it is. -/
def verbosity : Level → Nat
  | error => 1
  | warn => 2
  | info => 3
  | debug => 4
  | trace => 5

end Level

/-- The part of the program that a record comes from. -/
inductive Origin where
  | observability
  | reconciler
  | store
  deriving DecidableEq, Repr

/-- The name of a part of the program. -/
def Origin.target : Origin → String
  | observability => "sync_core::observability"
  | reconciler => "sync_core::reconciler"
  | store => "sync_core::store"

/-- The value of a field: the word for an event, a text, a count or a truth value. -/
inductive FieldValue where
  | event (word : String)
  | text (s : String)
  | count (n : Nat)
  | flag (b : Bool)
  deriving DecidableEq, Repr

/-- One record of a log. -/
structure Record where
  level : Level
  origin : Origin
  message : String
  fields : List (String × FieldValue)
  deriving DecidableEq, Repr

/-- A stretch of work that records are made in: its name, and its fields. -/
structure Span where
  name : String
  fields : List (String × String)
  deriving DecidableEq, Repr

end Freshness.Log
