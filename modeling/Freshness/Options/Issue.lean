import Freshness.Pattern
import Freshness.Text.Quoted

/-!
# Problems with annotations

An `Issue` is one problem with the annotations of a container. Every issue names the key that it is
about. The error of a container holds all of its issues in the order in which they are looked for.
-/

namespace Freshness

/-- One problem with the annotations of a container. -/
inductive Issue where
  | invalidBool (key value : String)
  | invalidPin (key value : String)
  | invalidRegex (key pattern : String) (refusal : Pattern.Refusal)
  | conflict (key conflictsWith : String)
  | missingDependency (key requires : String)
  deriving DecidableEq, Repr

namespace Issue

/-- The key that an issue is about. -/
def key : Issue → String
  | invalidBool k _ => k
  | invalidPin k _ => k
  | invalidRegex k _ _ => k
  | conflict k _ => k
  | missingDependency k _ => k

/-- The message of the cause of an issue: the report on a refused pattern. -/
def cause? : Issue → Option String
  | invalidRegex _ pattern refusal => some (refusal.report pattern)
  | _ => none

/-- The message of an issue. -/
def message : Issue → String
  | invalidBool k v => k ++ ": " ++ Text.quoted v ++ " is not a valid boolean"
  | invalidPin k v => k ++ ": " ++ Text.quoted v ++ " is not a valid unsigned integer"
  | invalidRegex k pattern refusal => k ++ ": invalid regular expression: " ++ refusal.report pattern
  | conflict k other => k ++ ": cannot be combined with " ++ other
  | missingDependency k required => k ++ ": requires " ++ required ++ " to be set"

/-- The message of the error that holds several issues. -/
def messageOfAll (issues : List Issue) : String :=
  "failed to build version options: " ++ ", ".intercalate (issues.map message)

end Issue

end Freshness
