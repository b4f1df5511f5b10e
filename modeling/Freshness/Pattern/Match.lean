import Freshness.Pattern.Expr

/-!
# Matching anywhere

Whether an expression matches some part of a text does not depend on which choices are preferred. A set of
positions of a text is a number: position `i` belongs to it iff bit `i` is set. Running an expression sends the
set of the positions where it may start to the set of the positions where it may end. A character class keeps the positions before a member and moves them by one; a look keeps
the positions where it holds; a repetition runs its body again and again.

More runs than there are positions make no difference: of that many runs one ends where it began,
and leaving it out, or running it once more, leads to the same position. So a lower bound is capped
by the number of positions, and so is the number of further runs.
-/

namespace Freshness.Pattern

open Freshness.Unicode

/-- A set of positions, as the bits of a number. -/
abbrev Positions := Nat

/-- The set of the indices below `n` for which `p` holds. -/
def positionsWhere (p : Nat → Bool) : Nat → Positions
  | 0 => 0
  | n + 1 => if p n then positionsWhere p n ||| (1 <<< n) else positionsWhere p n

/-- Whether a character belongs to words. -/
def isWordChar (unicode : Bool) (c : Char) : Bool :=
  (ShortClass.word.charClass unicode).mem c

/-- Whether a condition holds at a position of a text. -/
def Look.holds (text : Array Char) (i : Nat) (l : Look) : Bool :=
  let before : Option Char := if i = 0 then none else text[i - 1]?
  let after : Option Char := text[i]?
  let wordBefore (u : Bool) := before.any (isWordChar u)
  let wordAfter (u : Bool) := after.any (isWordChar u)
  match l with
  | .textStart => i == 0
  | .textEnd => i == text.size
  | .lineStart false => i == 0 || before == some '\n'
  | .lineEnd false => i == text.size || after == some '\n'
  | .lineStart true =>
    i == 0 || before == some '\n' || (before == some '\r' && after != some '\n')
  | .lineEnd true =>
    i == text.size || after == some '\r' || (after == some '\n' && before != some '\r')
  | .wordBoundary u => wordBefore u != wordAfter u
  | .notWordBoundary u => wordBefore u == wordAfter u
  | .wordStart u => !wordBefore u && wordAfter u
  | .wordEnd u => wordBefore u && !wordAfter u
  | .wordStartHalf u => !wordBefore u
  | .wordEndHalf u => !wordAfter u

/-- An expression with its classes and looks evaluated on one text. -/
inductive Plan where
  | stay
  | move (from_ : Positions)
  | keep (at_ : Positions)
  | seq (a b : Plan)
  | alt (a b : Plan)
  | repeated (least : Nat) (most : Option Nat) (body : Plan)

/-- The plan of an expression for a text. -/
def Expr.plan (text : Array Char) : Expr → Plan
  | .empty => .stay
  | .char c => .move (positionsWhere (fun i => (text[i]?).any c.mem) text.size)
  | .look l => .keep (positionsWhere (fun i => l.holds text i) (text.size + 1))
  | .seq a b => .seq (a.plan text) (b.plan text)
  | .alt a b => .alt (a.plan text) (b.plan text)
  | .repeated least most _ body => .repeated least most (body.plan text)
  | .captured _ body => body.plan text

/-- The positions that steps lead to from some positions, these included, after at most a number of
steps. Once a step leads nowhere new, no later one does. -/
def grow (step : Positions → Positions) : Nat → Positions → Positions
  | 0, s => s
  | n + 1, s =>
    let next := s ||| step s
    if next = s then s else grow step n next

/-- The positions where a plan may end if it starts at one of the positions `s` of a text with
`count` positions. -/
def Plan.run (count : Nat) : Plan → Positions → Positions
  | .stay, s => s
  | .move from_, s => (s &&& from_) <<< 1
  | .keep at_, s => s &&& at_
  | .seq a b, s => b.run count (a.run count s)
  | .alt a b, s => a.run count s ||| b.run count s
  | .repeated least most body, s =>
    let step := body.run count
    let reached := Nat.repeat step (min least count) s
    let further := match most with
      | none => count
      | some m => min (m - least) count
    grow step further reached

/-- The set of all positions of a text of that length. -/
def allPositions (length : Nat) : Positions := Nat.pow 2 (length + 1) - 1

/-- Whether an expression matches some part of a text. -/
def Expr.matchesSomewhere (e : Expr) (text : List Char) : Bool :=
  let a := text.toArray
  (e.plan a).run (a.size + 1) (allPositions a.size) != 0

end Freshness.Pattern
