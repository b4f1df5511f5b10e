import Freshness.Number.Reading
import Freshness.Policy
import Freshness.Policy.Path
import Freshness.Unicode.Case
import Freshness.Value

/-!
# Policies from sources of settings

The parts of a policy may come from sources that do not know what kind of value is wanted. A value of
another kind then stands for the value that it plainly means: a number for whether it is zero, a few
words for truth values, a truth value for zero or one, and a number with a point for the whole number
nearest to it. A value that means nothing of the kind is a mismatch.
-/

namespace Freshness

namespace Policy

/-- Where a value comes from. -/
inductive Source where
  | given
  | environment
  deriving DecidableEq, Repr

/-- What is found in place of what is wanted. -/
inductive Found where
  | nothing
  | integer (n : Int)
  | text (s : String)
  | sequence
  | map
  deriving DecidableEq, Repr

/-- What is wanted. -/
inductive Wanted where
  | truth
  | integer
  | unsigned
  deriving DecidableEq, Repr

/-- A value that cannot be taken for what is wanted of a part of the policy. -/
structure Mismatch where
  found : Found
  wanted : Wanted
  item : Item
  source : Source
  deriving DecidableEq, Repr

/-- What is found, as a message shows it. -/
def Found.shown : Found → String
  | nothing => "unit value"
  | integer n => "64-bit integer `" ++ toString n ++ "`"
  | text s => "string " ++ Text.quoted s
  | sequence => "sequence"
  | map => "map"

/-- What is wanted, as a message shows it. -/
def Wanted.shown : Wanted → String
  | truth => "a boolean"
  | integer => "an integer"
  | unsigned => "an unsigned 64 bit or less integer"

/-- The message of a mismatch. -/
def Mismatch.message (m : Mismatch) : String :=
  "invalid type: " ++ m.found.shown ++ ", expected " ++ m.wanted.shown ++ " for key `" ++ m.item.name
    ++ "`" ++ match m.source with
      | .given => ""
      | .environment => " in the environment"

/-! ## What values mean -/

/-- The truth value that a word in lower case means. -/
def truthWord? (word : String) : Option Bool :=
  if ["true", "on", "yes"].contains word then some true
  else if ["false", "off", "no"].contains word then some false
  else none

/-- The truth value that a value means. -/
def truth : Value → Except (Found × Wanted) Bool
  | .null => .error (.nothing, .truth)
  | .bool b => .ok b
  | .integer n => .ok (n != 0)
  | .float x => .ok x.isNonzero
  | .text s =>
    let word := Unicode.lowerCase s
    if word = "1" then .ok true
    else if word = "0" then .ok false
    else match truthWord? word with
      | some b => .ok b
      | none => .error (.text word, .truth)
  | .list _ => .error (.sequence, .truth)
  | .table _ => .error (.map, .truth)

/-- The unsigned number of 64 bits that a value means. -/
def word : Value → Except (Found × Wanted) UInt64
  | .null => .error (.nothing, .integer)
  | .bool b => .ok (if b then 1 else 0)
  | .integer n => if 0 ≤ n then .ok (UInt64.ofNat n.toNat) else .error (.integer n, .unsigned)
  | .float x => .ok x.toWord
  | .text s =>
    match truthWord? (Unicode.lowerCase s) with
    | some b => .ok (if b then 1 else 0)
    | none =>
      match Text.readWord? s.toList with
      | some n => .ok n
      | none => .error (.text s, .integer)
  | .list _ => .error (.sequence, .integer)
  | .table _ => .error (.map, .integer)

/-- The number that a value means, if it is a value at all. -/
def wordIfAny : Value → Except (Found × Wanted) (Option UInt64)
  | .null => .ok none
  | v => (word v).map some

/-! ## Reading a policy -/

/-- A value at a path. -/
structure Setting where
  path : Path
  value : Value
  source : Source
  deriving Repr

/-- What a setting makes of a part of the policy. A table is merged into what is there, so that one
without fields changes nothing. A path further into the part makes it a table or a list, which comes
from no source. -/
def Setting.update (s : Setting) (item : Item) (earlier : Option (Value × Source)) :
    Option (Value × Source) :=
  if s.path.name ≠ item.name then earlier
  else match s.path.steps, s.value with
    | .child _ :: _, _ => some (.table [], .given)
    | .item _ :: _, _ => some (.list [], .given)
    | [], .table [] => some (earlier.getD (.table [], s.source))
    | [], v => some (v, s.source)

/-- What is known of a part of the policy after settings are made one after the other. -/
def known (settings : List Setting) (item : Item) : Option (Value × Source) :=
  settings.foldl (fun earlier s => s.update item earlier) none

theorem known_concat (settings : List Setting) (s : Setting) (item : Item) :
    known (settings ++ [s]) item = s.update item (known settings item) := by
  simp [known]

/-- The meaning of a part of the policy that may be absent. -/
def readItem {α : Type} (meaning : Value → Except (Found × Wanted) α) (absent : α) (item : Item) :
    Option (Value × Source) → Except Mismatch α
  | none => .ok absent
  | some (v, source) => (meaning v).mapError fun (found, wanted) => ⟨found, wanted, item, source⟩

/-- The policy that settings make. A part that is not set is the one of the policy without settings. -/
def ofSettings (settings : List Setting) : Except Mismatch Policy := do
  let checkByDefault ← readItem truth false .checkByDefault (known settings .checkByDefault)
  let timeoutSeconds ← readItem wordIfAny none .timeoutSeconds (known settings .timeoutSeconds)
  let maxConcurrent ← readItem word 1 .maxConcurrent (known settings .maxConcurrent)
  return ⟨checkByDefault, timeoutSeconds, maxConcurrent⟩

end Policy

end Freshness
