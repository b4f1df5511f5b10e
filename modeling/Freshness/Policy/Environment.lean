import Freshness.Policy.Lenient

/-!
# Policies from the environment

A variable of the environment belongs to a part of the policy if its name, in lower case, is
`version_sync_` followed by a path at the name of the part. Its value is taken for a truth value if it spells
one, else for a whole number or a number with a point, else for a text.
-/

namespace Freshness.Policy

/-- The variables of an environment, in the order in which they were first set. -/
structure Environment where
  assigned : List (String × String)
  deriving DecidableEq, Repr, Inhabited

namespace Environment

/-- The environment without variables. -/
def empty : Environment := ⟨[]⟩

/-- The environment after a variable is set. A variable that is set again keeps its place. -/
def set (e : Environment) (name value : String) : Environment :=
  if e.assigned.any (·.1 == name) then
    ⟨e.assigned.map fun v => if v.1 == name then (name, value) else v⟩
  else ⟨e.assigned ++ [(name, value)]⟩

/-- The environment in which variables were set one after the other. -/
def ofAssignments (l : List (String × String)) : Environment :=
  l.foldl (fun e a => e.set a.1 a.2) empty

/-- What the names of all variables for the policy begin with, in lower case. -/
def namePrefix : String := "version_sync_"

/-- The value that the text of a variable spells. -/
def value (s : String) : Value :=
  if Unicode.lowerCase s = "true" then .bool true
  else if Unicode.lowerCase s = "false" then .bool false
  else match Text.readSignedWord? s.toList with
    | some n => .integer n
    | none =>
      match Text.readBinary64? s.toList with
      | some x => .float x
      | none => .text s

/-- The part of a text after its beginning. -/
def dropStart? (start s : String) : Option String :=
  if start.toList.isPrefixOf s.toList then some (String.ofList (s.toList.drop start.length)) else none

/-- The setting that a variable makes. A variable whose name does not go on as a path makes none. -/
def setting? (v : String × String) : Option Setting :=
  (dropStart? namePrefix (Unicode.lowerCase v.1)).bind fun text =>
    (Path.read text).toOption.map fun path => ⟨path, value v.2, .environment⟩

/-- The settings that the variables of an environment make. -/
def settings (e : Environment) : List Setting := e.assigned.filterMap setting?

end Environment

/-- The policy that an environment sets. -/
def ofEnvironment (e : Environment) : Except Mismatch Policy := ofSettings e.settings

end Freshness.Policy
