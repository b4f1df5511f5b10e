import Freshness.Pattern.Syntax
import Freshness.Unicode.Case
import Freshness.Unicode.Word

/-!
# Classes of characters

A `CharClass` is a set of characters built from sets of ranges by the operations that patterns have.
`CharClass.mem` says which characters it holds. Ignoring case adds every character that differs only
in case from a member, by the case orbits of Unicode or by the two cases of ASCII letters.
-/

namespace Freshness.Pattern

open Freshness.Unicode

/-- A set of characters. -/
inductive CharClass where
  | ranges (s : RangeSet)
  | union (a b : CharClass)
  | intersection (a b : CharClass)
  | difference (a b : CharClass)
  | symmetricDifference (a b : CharClass)
  | complement (a : CharClass)
  | anyCase (a : CharClass)
  | anyAsciiCase (a : CharClass)
  deriving DecidableEq, Repr

/-- The other case of an ASCII letter; other code points stay. -/
def swapAsciiCase (n : Nat) : Nat :=
  if 0x41 ≤ n ∧ n ≤ 0x5A then n + 32 else if 0x61 ≤ n ∧ n ≤ 0x7A then n - 32 else n

namespace CharClass

/-- The class without members. -/
def empty : CharClass := ranges ⟨[]⟩

/-- The class of the code points from `first` to `last`. -/
def range (first last : Nat) : CharClass := ranges ⟨[(first, last)]⟩

/-- The class of one character. -/
def single (c : Char) : CharClass := range c.toNat c.toNat

/-- Whether a class holds a code point. -/
def contains : CharClass → Nat → Bool
  | ranges s, n => s.contains n
  | union a b, n => a.contains n || b.contains n
  | intersection a b, n => a.contains n && b.contains n
  | difference a b, n => a.contains n && !b.contains n
  | symmetricDifference a b, n => a.contains n ^^ b.contains n
  | complement a, n => !a.contains n
  | anyCase a, n => (caseOrbit n).any a.contains
  | anyAsciiCase a, n => a.contains n || a.contains (swapAsciiCase n)

/-- Whether a class holds a character. -/
def mem (a : CharClass) (c : Char) : Bool := a.contains c.toNat

/-- The complement if `negated`, else the class itself. -/
def negateIf (negated : Bool) (a : CharClass) : CharClass := if negated then complement a else a

/-- The class of an operation on two classes. -/
def operate : ClassOp → CharClass → CharClass → CharClass
  | .intersection, a, b => intersection a b
  | .difference, a, b => difference a b
  | .symmetricDifference, a, b => symmetricDifference a b

end CharClass

/-- The ranges of an ASCII class. -/
def AsciiClass.ranges : AsciiClass → List (Nat × Nat)
  | alnum => [(0x30, 0x39), (0x41, 0x5A), (0x61, 0x7A)]
  | alpha => [(0x41, 0x5A), (0x61, 0x7A)]
  | ascii => [(0, 0x7F)]
  | blank => [(9, 9), (0x20, 0x20)]
  | cntrl => [(0, 0x1F), (0x7F, 0x7F)]
  | digit => [(0x30, 0x39)]
  | graph => [(0x21, 0x7E)]
  | lower => [(0x61, 0x7A)]
  | print => [(0x20, 0x7E)]
  | punct => [(0x21, 0x2F), (0x3A, 0x40), (0x5B, 0x60), (0x7B, 0x7E)]
  | space => [(9, 13), (0x20, 0x20)]
  | upper => [(0x41, 0x5A)]
  | word => [(0x30, 0x39), (0x41, 0x5A), (0x5F, 0x5F), (0x61, 0x7A)]
  | xdigit => [(0x30, 0x39), (0x41, 0x46), (0x61, 0x66)]

/-- The white space of Unicode as ranges. -/
def blankRanges : RangeSet :=
  ⟨[(9, 13), (0x20, 0x20), (0x85, 0x85), (0xA0, 0xA0), (0x1680, 0x1680), (0x2000, 0x200A),
    (0x2028, 0x2029), (0x202F, 0x202F), (0x205F, 0x205F), (0x3000, 0x3000)]⟩

/-- The class of a one-letter escape, of all characters or of ASCII ones only. -/
def ShortClass.charClass (unicode : Bool) : ShortClass → CharClass
  | .digit => .ranges (if unicode then decimalDigit else ⟨AsciiClass.digit.ranges⟩)
  | .space => .ranges (if unicode then blankRanges else ⟨AsciiClass.space.ranges⟩)
  | .word => .ranges (if unicode then wordLike else ⟨AsciiClass.word.ranges⟩)

end Freshness.Pattern
