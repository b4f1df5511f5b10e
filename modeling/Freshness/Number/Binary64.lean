/-!
# Binary numbers of 64 bits

A `Binary64` is a number with a binary point as it fits into 64 bits: a mantissa below `2 ^ 53` times a
power of two from `2 ^ (-1074)` on, with a sign, or an infinity, or no number at all. Everything here is
computed exactly on the mantissa and the exponent. A quotient is rounded to the nearest such number,
and to the even mantissa if two are equally near.
-/

namespace Freshness

/-- A number with a binary point: `finite` stands for its mantissa times two to its exponent. -/
inductive Binary64 where
  | nan
  | infinite (negative : Bool)
  | finite (negative : Bool) (mantissa : Nat) (exponent : Int)
  deriving DecidableEq, Repr, Inhabited

namespace Binary64

/-- The least exponent. -/
def leastExponent : Int := -1074

/-- The greatest exponent. -/
def greatestExponent : Int := 971

/-- The number that 64 bits stand for: a sign, eleven bits of exponent, and the rest of the mantissa. -/
def ofBits (word : UInt64) : Binary64 :=
  let n := word.toNat
  let negative := n / Nat.pow 2 63 == 1
  let field : Nat := n / Nat.pow 2 52 % Nat.pow 2 11
  let rest := n % Nat.pow 2 52
  if field = 2047 then if rest = 0 then infinite negative else nan
  else if field = 0 then finite negative rest leastExponent
  else finite negative (Nat.pow 2 52 + rest) (leastExponent + (field : Int) - 1)

/-- A quotient rounded to the nearest whole number, to the even one if two are equally near. -/
def roundEven (num den : Nat) : Nat :=
  let whole := num / den
  let rest := num % den
  if 2 * rest < den ∨ (2 * rest = den ∧ whole % 2 = 0) then whole else whole + 1

/-- A quotient counted in units of two to an exponent: its numerator and its denominator. -/
def inUnits (num den : Nat) (exponent : Int) : Nat × Nat :=
  (num * Nat.pow 2 (-exponent).toNat, den * Nat.pow 2 exponent.toNat)

/-- The exponent at which a positive quotient has a mantissa of 53 bits, or the least one. -/
def exponentOf (num den : Nat) : Int :=
  let low := max leastExponent ((Nat.log2 num : Int) - Nat.log2 den - 53)
  let (n, d) := inUnits num den low
  if n / d < Nat.pow 2 53 then low else low + 1

/-- The number nearest to a quotient. -/
def ofRatio (negative : Bool) (num den : Nat) : Binary64 :=
  if num = 0 then finite negative 0 leastExponent
  else
    let exponent := exponentOf num den
    let (n, d) := inUnits num den exponent
    let rounded := roundEven n d
    let (mantissa, exponent) :=
      if rounded = Nat.pow 2 53 then (Nat.pow 2 52, exponent + 1) else (rounded, exponent)
    if exponent > greatestExponent then infinite negative else finite negative mantissa exponent

/-- The number nearest to a number of decimal units, where one unit is ten to an exponent. A number far
out of range is settled by its size alone. -/
def ofDecimal (negative : Bool) (units : Nat) (exponent : Int) : Binary64 :=
  let size := (Nat.toDigits 10 units).length + exponent
  if units = 0 ∨ size < -330 then finite negative 0 leastExponent
  else if size > 310 then infinite negative
  else ofRatio negative (units * Nat.pow 10 exponent.toNat) (Nat.pow 10 (-exponent).toNat)

/-! ## Questions about a number -/

/-- Whether a number is anything but zero. What is no number is not zero. -/
def isNonzero : Binary64 → Bool
  | nan => true
  | infinite _ => true
  | finite _ mantissa _ => mantissa != 0

/-- A finite number as a whole number of units of two to an exponent that is no greater than its
own. -/
def scaled (negative : Bool) (mantissa : Nat) (exponent unit : Int) : Int :=
  let size := mantissa * Nat.pow 2 (exponent - unit).toNat
  if negative then -(size : Int) else size

/-- Whether a number is at most another one. What is no number is not comparable. -/
def le : Binary64 → Binary64 → Bool
  | nan, _ => false
  | _, nan => false
  | infinite true, _ => true
  | _, infinite true => false
  | _, infinite false => true
  | infinite false, _ => false
  | finite n m q, finite n' m' q' =>
    let unit := min q q'
    decide (scaled n m q unit ≤ scaled n' m' q' unit)

/-- The whole number nearest to a nonnegative number, the greater one if two are equally near. -/
def roundAway (mantissa : Nat) (exponent : Int) : Nat :=
  let (n, d) := (mantissa * Nat.pow 2 exponent.toNat, Nat.pow 2 (-exponent).toNat)
  (2 * n + d) / (2 * d)

/-- The unsigned number of 64 bits nearest to a number. What lies outside goes to the nearer end, and
what is no number goes to zero. -/
def toWord : Binary64 → UInt64
  | nan => 0
  | infinite negative => if negative then 0 else UInt64.ofNat (UInt64.size - 1)
  | finite true _ _ => 0
  | finite false m q => UInt64.ofNat (min (roundAway m q) (UInt64.size - 1))

end Binary64

end Freshness
