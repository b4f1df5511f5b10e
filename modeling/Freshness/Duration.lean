/-!
# Durations

A duration counts nanoseconds. Its text uses the largest of the units s, ms, µs and ns that it fills,
with the rest as a fraction without trailing zeros. Timers run on whole milliseconds, so they round a
duration up.
-/

namespace Freshness

/-- A length of time in nanoseconds. -/
structure Duration where
  nanos : Nat
  deriving DecidableEq, Repr, Inhabited

namespace Duration

/-- A duration of whole seconds. -/
def ofSeconds (n : Nat) : Duration := ⟨n * 1000000000⟩

/-- A duration of whole milliseconds. -/
def ofMillis (n : Nat) : Duration := ⟨n * 1000000⟩

/-- The least number of whole milliseconds that is no shorter than a duration. -/
def ceilMillis (d : Duration) : Nat := (d.nanos + 999999) / 1000000

@[simp] theorem ceilMillis_ofMillis (n : Nat) : (ofMillis n).ceilMillis = n := by
  simp only [ceilMillis, ofMillis]; omega

/-- `width` decimal digits of a number, with leading zeros. -/
def fixedDigits : Nat → Nat → List Char
  | 0, _ => []
  | width + 1, n => fixedDigits width (n / 10) ++ [Nat.digitChar (n % 10)]

/-- A fraction of `width` digits without its trailing zeros, after a point; nothing if it is zero. -/
def fraction (width n : Nat) : List Char :=
  let digits := ((fixedDigits width n).reverse.dropWhile (· == '0')).reverse
  if digits.isEmpty then [] else '.' :: digits

/-- The text of a count of units of `10 ^ width` nanoseconds each. -/
def inUnit (width : Nat) (unit : String) (d : Duration) : String :=
  let size := Nat.pow 10 width
  toString (d.nanos / size) ++ String.ofList (fraction width (d.nanos % size)) ++ unit

/-- The text of a duration. -/
def text (d : Duration) : String :=
  if d.nanos ≥ 1000000000 then d.inUnit 9 "s"
  else if d.nanos ≥ 1000000 then d.inUnit 6 "ms"
  else if d.nanos ≥ 1000 then d.inUnit 3 "µs"
  else d.inUnit 0 "ns"

end Duration

end Freshness
