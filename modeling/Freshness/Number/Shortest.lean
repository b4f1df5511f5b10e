import Freshness.Number.Binary64

/-!
# Shortest decimal texts

The text of a binary number has the fewest decimal digits that still tell the number from its
neighbours, and of these digits the ones nearest to it. Numbers of moderate size are written with a
decimal point among the digits; the others have one digit before the point and an exponent of ten.
-/

namespace Freshness

namespace Binary64

/-- The numbers that round to a number: its mantissa and exponent, and half the distance to each of its
neighbours, all counted in quarters of the unit. -/
structure Interval where
  middle : Nat
  below : Nat
  above : Nat
  exponent : Int
  closed : Bool

/-- The numbers that round to the finite number with that mantissa and exponent. The neighbour below a
power of two is nearer than the one above. -/
def interval (mantissa : Nat) (exponent : Int) : Interval where
  middle := 4 * mantissa
  below := if mantissa = Nat.pow 2 52 ∧ exponent > leastExponent then 1 else 2
  above := 2
  exponent := exponent - 2
  closed := mantissa % 2 == 0

/-- Digits and a power of ten: `units` times ten to the exponent. -/
structure Decimal where
  units : Nat
  exponent : Int
  deriving DecidableEq, Repr

/-- Two numbers over a common unit: a decimal grid point, and one quarter of the unit of an interval. -/
def scales (i : Interval) (exponent : Int) : Nat × Nat :=
  (Nat.pow 10 exponent.toNat * Nat.pow 2 (-i.exponent).toNat,
    Nat.pow 2 i.exponent.toNat * Nat.pow 10 (-exponent).toNat)

/-- The point of a decimal grid that lies in an interval and nearest to its middle, if there is one; the
even one if two are equally near. -/
def nearestOnGrid? (i : Interval) (exponent : Int) : Option Decimal :=
  let (point, quarter) := scales i exponent
  let middle := i.middle * quarter
  let low := middle / point
  let inside (k : Nat) : Bool :=
    let x := k * point
    if x ≤ middle then
      let d := middle - x
      decide (d < i.below * quarter) || (i.closed && d == i.below * quarter)
    else
      let d := x - middle
      decide (d < i.above * quarter) || (i.closed && d == i.above * quarter)
  let toLow := middle - low * point
  let toHigh := (low + 1) * point - middle
  let first := if toLow < toHigh ∨ (toLow = toHigh ∧ low % 2 = 0) then low else low + 1
  let second := if first = low then low + 1 else low
  if first ≠ 0 ∧ inside first then some ⟨first, exponent⟩
  else if second ≠ 0 ∧ inside second then some ⟨second, exponent⟩
  else none

/-- The decimal exponent of the leading digit of a positive quotient. -/
def leadingExponent (num den : Nat) : Int :=
  if num ≥ den then ((Nat.toDigits 10 (num / den)).length : Int) - 1
  else -((Nat.toDigits 10 ((den - 1) / num)).length : Int)

/-- The shortest decimal that rounds to the positive number with that mantissa and exponent. -/
def shortest (mantissa : Nat) (exponent : Int) : Decimal :=
  let i := interval mantissa exponent
  let lead := leadingExponent (mantissa * Nat.pow 2 exponent.toNat) (Nat.pow 2 (-exponent).toNat)
  let grids := (List.range 18).map fun (n : Nat) => lead + 1 - (n : Int)
  (grids.findSome? (nearestOnGrid? i)).getD
    ⟨mantissa * Nat.pow 2 exponent.toNat * Nat.pow 5 (-exponent).toNat, min exponent 0⟩

/-! ## Layout -/

/-- Digits with a point before the last `places` of them, and at least one digit on each side. -/
def withPoint (digits : List Char) (places : Nat) : List Char :=
  let padded := List.replicate (places + 1 - digits.length) '0' ++ digits
  let whole := padded.take (padded.length - places)
  let rest := padded.drop (padded.length - places)
  whole ++ ['.'] ++ (if rest.isEmpty then ['0'] else rest)

/-- A decimal with the zeros at its end taken into the exponent. -/
def digitsOf (d : Decimal) : List Char × Int :=
  let all := Nat.toDigits 10 d.units
  let zeros := (all.reverse.takeWhile (· == '0')).length
  (all.take (all.length - zeros), d.exponent + zeros)

/-- The text of a positive decimal: with a point if its leading digit stands for a power of ten from
the fifth below one to the fifteenth, otherwise with an exponent. -/
def Decimal.text (d : Decimal) : List Char :=
  let (digits, exponent) := digitsOf d
  let lead := exponent + digits.length - 1
  if -5 ≤ lead ∧ lead ≤ 15 then
    withPoint (digits ++ List.replicate exponent.toNat '0') (-exponent).toNat
  else
    digits.take 1 ++ (if digits.length > 1 then '.' :: digits.drop 1 else []) ++ ['e']
      ++ [if lead < 0 then '-' else '+'] ++ Nat.toDigits 10 lead.natAbs

/-- The sign of a text. -/
def signText (negative : Bool) : String := if negative then "-" else ""

/-- The text of a number. -/
def text : Binary64 → String
  | nan => "NaN"
  | infinite negative => signText negative ++ "inf"
  | finite negative m q =>
    signText negative ++ if m = 0 then "0.0" else String.ofList (shortest m q).text

end Binary64

end Freshness
