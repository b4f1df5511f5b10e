/-!
# Decimal numbers of one word

The readers of this library take unsigned numbers of 64 bits in decimal digits. The digits may follow
one plus sign and may begin with zeros; anything else, and every number that does not fit, is
refused.
-/

namespace Freshness.Text

/-- The value of decimal digits, `none` if there are none or if some character is no digit. -/
def digitsValue? (s : List Char) : Option Nat :=
  if s.isEmpty ∨ ¬ s.all Char.isDigit then none
  else some (s.foldl (fun n c => n * 10 + (c.toNat - '0'.toNat)) 0)

/-- The text without one plus sign at its start. -/
def dropPlus : List Char → List Char
  | '+' :: rest => rest
  | s => s

/-- The unsigned number of 64 bits that a text denotes. -/
def readWord? (s : List Char) : Option UInt64 :=
  (digitsValue? (dropPlus s)).bind fun n => if n < UInt64.size then some (UInt64.ofNat n) else none

/-- The decimal digits of an unsigned number of 64 bits. -/
def wordText (n : UInt64) : String := toString n.toNat

end Freshness.Text
