/-!
# Sets of characters

The properties of characters that this library asks for are long lists of ranges. A `RangeSet` holds
such a list; `RangeSet.decode` reads it from a compact text, so that a table of the standard is one
string. The text alternates between two hexadecimal numbers, separated by blanks and line ends: how
many code points to skip, and how many to take.

A character belongs to the set iff one of the ranges covers its code point; nothing depends on the
order of the ranges.
-/

namespace Freshness.Unicode

/-- A set of code points given by closed ranges. -/
structure RangeSet where
  ranges : List (Nat × Nat)
  deriving DecidableEq, Repr, Inhabited

/-! ## The text of a table -/

/-- The value of a hexadecimal digit in lower case; other characters separate numbers. -/
def tableDigit? (c : Char) : Option Nat :=
  if '0' ≤ c ∧ c ≤ '9' then some (c.toNat - '0'.toNat)
  else if 'a' ≤ c ∧ c ≤ 'f' then some (c.toNat - 'a'.toNat + 10)
  else none

/-- The hexadecimal numbers of a text; `current` is the number being read. -/
def hexNumbers (current : Option Nat) : List Char → List Nat
  | [] => current.toList
  | c :: rest =>
    match tableDigit? c with
    | some d => hexNumbers (some (current.getD 0 * 16 + d)) rest
    | none => current.toList ++ hexNumbers none rest

namespace RangeSet

/-- The ranges that a list of runs describes: skip so many code points, then take so many. -/
def ofRuns : List Nat → Nat → List (Nat × Nat)
  | skip :: take :: rest, position =>
    let first := position + skip
    (first, first + take - 1) :: ofRuns rest (first + take)
  | _, _ => []

/-- The set that a table text describes. -/
def decode (text : String) : RangeSet :=
  ⟨ofRuns (hexNumbers none text.toList) 0⟩

/-- Whether the set holds a code point. -/
def contains (s : RangeSet) (n : Nat) : Bool :=
  s.ranges.any fun r => r.1 ≤ n && n ≤ r.2

/-- Whether the set holds a character. -/
def mem (s : RangeSet) (c : Char) : Bool :=
  s.contains c.toNat

/-- The union of two sets. -/
def union (s t : RangeSet) : RangeSet :=
  ⟨s.ranges ++ t.ranges⟩

end RangeSet

/-! ## Named sets -/

/-- A set of characters under all of its names. Names are kept without blanks, hyphens and
underscores and in lower case. -/
structure NamedSet where
  names : List String
  table : String

/-- The set that a name stands for in a list of named sets. -/
def NamedSet.find? (sets : List NamedSet) (name : String) : Option NamedSet :=
  sets.find? (·.names.contains name)

end Freshness.Unicode
