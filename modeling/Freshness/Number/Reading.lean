import Freshness.Number.Binary64
import Freshness.Text.Decimal

/-!
# Numbers read from text

A whole number is an optional sign and decimal digits. A number with a point has digits on at least
one side of the point, and may end with an exponent; infinities and the absence of a number have
words of their own.
-/

namespace Freshness.Text

/-- Whether a text begins with a minus sign, and the text without one sign at its start. -/
def splitSign : List Char → Bool × List Char
  | '-' :: rest => (true, rest)
  | '+' :: rest => (false, rest)
  | s => (false, s)

/-- The whole number that a text denotes. -/
def readInteger? (s : List Char) : Option Int :=
  let (negative, digits) := splitSign s
  (digitsValue? digits).map fun n => if negative then -(n : Int) else n

/-- The signed number of 64 bits that a text denotes. -/
def readSignedWord? (s : List Char) : Option Int :=
  (readInteger? s).filter fun n => decide (Int64.minValue.toInt ≤ n ∧ n ≤ Int64.maxValue.toInt)

/-- The exponent at the end of a number: nothing, or the letter and a whole number. -/
def readExponent? : List Char → Option Int
  | [] => some 0
  | c :: rest => if c = 'e' ∨ c = 'E' then readInteger? rest else none

/-- Digits before and after an optional point, and the rest of the text. -/
def splitPoint (s : List Char) : List Char × List Char × List Char :=
  let whole := s.takeWhile Char.isDigit
  match s.dropWhile Char.isDigit with
  | '.' :: rest => (whole, rest.takeWhile Char.isDigit, rest.dropWhile Char.isDigit)
  | rest => (whole, [], rest)

/-- The number that a text without a sign denotes. -/
def readUnsigned? (negative : Bool) (s : List Char) : Option Binary64 :=
  let word := String.ofList (s.map Char.toLower)
  if word = "nan" then some .nan
  else if word = "inf" ∨ word = "infinity" then some (.infinite negative)
  else
    let (whole, fraction, rest) := splitPoint s
    (readExponent? rest).bind fun exponent =>
      (digitsValue? (whole ++ fraction)).map fun units =>
        .ofDecimal negative units (exponent - fraction.length)

/-- The number with a binary point that is nearest to what a text denotes. -/
def readBinary64? (s : List Char) : Option Binary64 :=
  let (negative, rest) := splitSign s
  readUnsigned? negative rest

theorem splitSign_of_digit {c : Char} (h : c.isDigit) (s : List Char) :
    splitSign (c :: s) = (false, c :: s) := by
  unfold splitSign
  split <;> simp_all

end Freshness.Text
