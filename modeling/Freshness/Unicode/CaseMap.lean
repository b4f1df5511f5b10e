import Freshness.Unicode.RangeSet

/-!
# Maps between the cases of letters

A `CaseMap` sends runs of consecutive code points to runs of the same length and leaves every other
code point alone. Its table text is a list of hexadecimal triples: how many code points to skip, the
length of the run, and the image of its first member.
-/

namespace Freshness.Unicode

/-- One run of a case map: `length` code points from `first` on are sent to as many from `image` on. -/
structure CaseRun where
  first : Nat
  length : Nat
  image : Nat
  deriving DecidableEq, Repr

/-- A map of code points given by runs. -/
structure CaseMap where
  runs : List CaseRun
  deriving DecidableEq, Repr, Inhabited

namespace CaseMap

/-- The runs that a list of triples describes. -/
def ofTriples : List Nat → Nat → List CaseRun
  | skip :: length :: image :: rest, position =>
    let first := position + skip
    ⟨first, length, image⟩ :: ofTriples rest (first + length)
  | _, _ => []

/-- The map that a table text describes. -/
def decode (text : String) : CaseMap :=
  ⟨ofTriples (hexNumbers none text.toList) 0⟩

/-- The map that several table texts describe, each of them from the first code point on. -/
def ofTables (texts : List String) : CaseMap :=
  ⟨texts.flatMap fun text => (decode text).runs⟩

theorem mem_runs_ofTables {r : CaseRun} {texts : List String} :
    r ∈ (ofTables texts).runs ↔ ∃ text ∈ texts, r ∈ (decode text).runs := List.mem_flatMap

/-- The image of a code point: its own number if no run covers it. -/
def apply (m : CaseMap) (n : Nat) : Nat :=
  match m.runs.find? fun r => r.first ≤ n && n < r.first + r.length with
  | some r => r.image + (n - r.first)
  | none => n

/-- The code points that some run sends to `n`. -/
def preimages (m : CaseMap) (n : Nat) : List Nat :=
  m.runs.filterMap fun r =>
    if r.image ≤ n ∧ n < r.image + r.length then some (r.first + (n - r.image)) else none

end CaseMap

end Freshness.Unicode
