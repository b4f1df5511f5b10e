import Freshness.Unicode.Age
import Freshness.Unicode.Boundary
import Freshness.Unicode.Category
import Freshness.Unicode.Property
import Freshness.Unicode.Script
import Freshness.Unicode.ScriptExtension

/-!
# Looking up a set of characters by name

A set of characters is asked for either by one name, which may be a two-valued property, a general
category or a script, or by a property and one of its values. Names are compared loosely: letter
case, blanks, hyphens, underscores and a leading `is` make no difference.

The sets are those of version 16.0 of the standard. A failed look-up tells whether the property or the value is unknown.
-/

namespace Freshness.Unicode

/-- Why a look-up failed. -/
inductive LookupFailure where
  | unknownProperty
  | unknownValue
  deriving DecidableEq, Repr

/-- The lower-case form of an ASCII letter; other characters stay. -/
def lowerAscii (c : Char) : Char :=
  if 'A' ≤ c ∧ c ≤ 'Z' then Char.ofNat (c.toNat + 32) else c

/-- The form in which names are compared. The name `isc` is not cut down to `c`, since it is a
property's own name. -/
def looseName (name : List Char) : String :=
  let (cut, body) := match name with
    | i :: s :: rest => if lowerAscii i = 'i' ∧ lowerAscii s = 's' then (true, rest) else (false, name)
    | _ => (false, name)
  let kept := body.filterMap fun c =>
    if c = ' ' ∨ c = '_' ∨ c = '-' ∨ c.toNat > 0x7F then none else some (lowerAscii c)
  if cut ∧ kept = ['c'] then "isc" else String.ofList kept

/-- The ranges of a table entry, if it has any. -/
def NamedSet.value (s : NamedSet) : Except LookupFailure RangeSet :=
  if s.table.isEmpty then .error .unknownValue else .ok (RangeSet.decode s.table)

/-- The value of that name in a table of values. -/
def valueNamed (sets : List NamedSet) (name : String) : Except LookupFailure RangeSet :=
  match NamedSet.find? sets name with
  | some s => s.value
  | none => .error .unknownValue

/-- The code points of all characters. -/
def allCharacters : RangeSet := ⟨[(0, 0xD7FF), (0xE000, 0x10FFFF)]⟩

/-- The general category of that name: a leaf, a group, or one of the three names for large classes.
`none` says that there is no category of that name. -/
def category? (name : String) : Option (Except LookupFailure RangeSet) :=
  if name = "any" then some (.ok allCharacters)
  else if name = "ascii" then some (.ok ⟨[(0, 0x7F)]⟩)
  else if name = "assigned" then
    some (.ok ((categories.filter (!·.names.contains "cn")).foldl
      (fun acc s => acc.union (RangeSet.decode s.table)) ⟨[]⟩))
  else if name = "cs" ∨ name = "surrogate" then some (.error .unknownValue)
  else match categoryGroups.find? (·.1.contains name) with
    | some (_, leaves) =>
      some (.ok ((categories.filter fun s => leaves.any s.names.contains).foldl
        (fun acc s => acc.union (RangeSet.decode s.table)) ⟨[]⟩))
    | none => (NamedSet.find? categories name).map NamedSet.value

/-- The characters that a version of the standard knows: those added in it or before. -/
def knownInVersion (version : String) : Except LookupFailure RangeSet :=
  match additions.findIdx? (·.names.contains version) with
  | some i => .ok ((additions.take (i + 1)).foldl
      (fun acc s => acc.union (RangeSet.decode s.table)) ⟨[]⟩)
  | none => .error .unknownValue

/-- The set that one name stands for. The names `cf`, `sc` and `lc` also abbreviate properties, but
here they are categories. -/
def lookup (name : List Char) : Except LookupFailure RangeSet :=
  let n := looseName name
  let isProperty := n ≠ "cf" ∧ n ≠ "sc" ∧ n ≠ "lc"
  match (if isProperty then NamedSet.find? properties n else none) with
  | some s => .ok (RangeSet.decode s.table)
  | none =>
    if isProperty ∧ otherPropertyNames.contains n then .error .unknownProperty
    else match category? n with
      | some r => r
      | none =>
        match NamedSet.find? scripts n with
        | some s => s.value
        | none => .error .unknownProperty

/-- The set of the characters for which a property has a value. -/
def lookupValue (property value : List Char) : Except LookupFailure RangeSet :=
  let p := looseName property
  let v := looseName value
  if p = "gc" ∨ p = "generalcategory" then (category? v).getD (.error .unknownValue)
  else if p = "sc" ∨ p = "script" then valueNamed scripts v
  else if p = "scx" ∨ p = "scriptextensions" then valueNamed scriptExtensions v
  else if p = "age" then knownInVersion v
  else if p = "gcb" ∨ p = "graphemeclusterbreak" then valueNamed graphemeBreaks v
  else if p = "wb" ∨ p = "wordbreak" then valueNamed wordBreaks v
  else if p = "sb" ∨ p = "sentencebreak" then valueNamed sentenceBreaks v
  else if otherPropertyNames.contains p ∨ (NamedSet.find? properties p).isSome then
    .error .unknownValue
  else .error .unknownProperty

end Freshness.Unicode
