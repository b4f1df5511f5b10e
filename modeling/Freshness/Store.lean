import Freshness.Store.Series

/-!
# The store of verdicts

The store keeps at most one entry for each container of each pod, and publishes every entry as a
series of a gauge. A change adds an entry or removes one. An entry that takes the place of another one
with other labels first takes the series of the other one back.
-/

namespace Freshness

/-- The entries of the store, and the series that the gauge publishes. -/
structure Store where
  entries : List Store.Entry
  series : List Store.Series
  deriving DecidableEq, Repr, Inhabited

namespace Store

/-- One change of the store. -/
inductive Change where
  | add (e : Entry)
  | remove (k : Key)
  deriving DecidableEq, Repr

/-- The place that a change is about. -/
def Change.key : Change → Key
  | .add e => e.key
  | .remove k => k

/-- The store without entries. -/
def empty : Store := ⟨[], []⟩

/-- The entry at a place. -/
def get? (s : Store) (k : Key) : Option Entry := s.entries.find? (·.key == k)

/-- The number of entries. -/
def size (s : Store) : Nat := s.entries.length

/-! ## The gauge -/

/-- Whether the gauge publishes a series for labels. -/
def isPublished (series : List Series) (l : Labels) : Bool :=
  series.any (·.labels.identity == l.identity)

/-- The gauge after the series of labels is given a value. A series that is already there keeps the
labels that it was made with. -/
def publish (series : List Series) (s : Series) : List Series :=
  if isPublished series s.labels then
    series.map fun t => if t.labels.identity == s.labels.identity then { t with isLatest := s.isLatest } else t
  else series ++ [s]

/-- The gauge after the series of labels is taken back. -/
def retract (series : List Series) (l : Labels) : List Series :=
  series.filter (·.labels.identity != l.identity)

/-! ## Changes -/

/-- The entries with the one at a place left out. -/
def without (entries : List Entry) (k : Key) : List Entry := entries.filter (·.key != k)

/-- The entry whose series a change takes back: the one that is removed, or that another one with
other labels takes the place of. -/
def displaced? (s : Store) : Change → Option Entry
  | .add e => (s.get? e.key).filter (·.labels != e.labels)
  | .remove k => s.get? k

/-- The displaced entry whose series is no longer there to be taken back. -/
def alreadyAbsent? (s : Store) (c : Change) : Option Entry :=
  (s.displaced? c).filter fun e => !isPublished s.series e.labels

/-- The series that are left when a change has taken back what it displaces. -/
def seriesKept (s : Store) (c : Change) : List Series :=
  match s.displaced? c with
  | some old => retract s.series old.labels
  | none => s.series

/-- The store after a change. -/
def apply (s : Store) (c : Change) : Store :=
  match c with
  | .add e => ⟨without s.entries e.key ++ [e], publish (s.seriesKept c) e.series⟩
  | .remove k => ⟨without s.entries k, s.seriesKept c⟩

/-- The store after several changes. -/
def applyAll (s : Store) (changes : List Change) : Store := changes.foldl apply s

/-- The store that changes lead to from the store without entries. -/
def ofChanges (changes : List Change) : Store := empty.applyAll changes

/-! ## What a change does to the entries -/

@[simp] theorem applyAll_nil (s : Store) : s.applyAll [] = s := rfl

@[simp] theorem applyAll_cons (s : Store) (c : Change) (cs : List Change) :
    s.applyAll (c :: cs) = (s.apply c).applyAll cs := rfl

theorem applyAll_append (s : Store) (cs ds : List Change) :
    s.applyAll (cs ++ ds) = (s.applyAll cs).applyAll ds := by
  simp [applyAll]

theorem find?_without (entries : List Entry) (k l : Key) :
    (without entries k).find? (·.key == l) =
      if l = k then none else entries.find? (·.key == l) := by
  induction entries with
  | nil => simp [without]
  | cons e es ih =>
    simp only [without, List.filter_cons, List.find?_cons] at *
    grind

/-- A place holds what the last change there put into it. -/
theorem get?_apply (s : Store) (c : Change) (k : Key) :
    (s.apply c).get? k =
      if k = c.key then (match c with | .add e => some e | .remove _ => none) else s.get? k := by
  cases c with
  | add e =>
    simp only [apply, get?, List.find?_append, find?_without, Change.key]
    grind
  | remove l =>
    simp only [apply, get?, find?_without, Change.key]
    rfl

end Store

end Freshness
