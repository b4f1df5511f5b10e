import Freshness.Number.Shortest
import Freshness.Text.Quoted

/-!
# Values

A value is what a document or a source of settings holds before it is known what is wanted of it:
nothing, a truth value, a number, a text, a list or a table.
-/

namespace Freshness

/-- A value of a document. -/
inductive Value where
  | null
  | bool (b : Bool)
  | integer (n : Int)
  | float (x : Binary64)
  | text (s : String)
  | list (items : List Value)
  | table (fields : List (String × Value))
  deriving Repr, Inhabited

namespace Value

/-- The word for a truth value. -/
def boolText (b : Bool) : String := if b then "true" else "false"

/-- A value as a message shows it. What is inside a list or a table is not shown. -/
def shown : Value → String
  | null => "null"
  | bool b => "boolean `" ++ boolText b ++ "`"
  | integer n => "integer `" ++ toString n ++ "`"
  | float x => "floating point `" ++ x.text ++ "`"
  | text s => "string " ++ Text.quoted s
  | list _ => "sequence"
  | table _ => "map"

/-- The fields of a table with the last of equal names, in the order of the names. -/
def inOrder (fields : List (String × Value)) : List (String × Value) :=
  (fields.foldl (fun kept f => kept.filter (·.1 != f.1) ++ [f]) []).mergeSort
    fun a b => decide (a.1 ≤ b.1)

end Value

end Freshness
