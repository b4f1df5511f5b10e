import Freshness.Pattern.Syntax
import Freshness.Text.Blank

/-!
# Scanning a pattern

A scan moves a cursor over the characters of a pattern and may stop with a fault. In verbose mode
the blanks between the elements of a pattern, and the comments from `#` to the end of a line, are
passed over; the moves below that say so do this, the others do not.

Loops are bounded by the number of characters: every turn of a loop moves the cursor.
-/

namespace Freshness.Pattern

/-- Where a scan stands: its offset, whether it is in verbose mode, and the names that the groups so
far were given, each with its place. -/
structure Cursor where
  offset : Nat
  verbose : Bool
  names : List (String × Span)

/-- A computation that scans a pattern. -/
abbrev Scan := ReaderT (Array Char) (StateT Cursor (Except Fault))

namespace Scan

/-- Stop with a fault. -/
def fail {α : Type} (kind : FaultKind) (span : Span) : Scan α :=
  throw ⟨kind, span⟩

/-- The current offset. -/
def offset : Scan Nat := return (← get).offset

/-- The number of characters of the pattern; it bounds every loop. -/
def size : Scan Nat := return (← read).size

/-- Go to an offset. -/
def goto (n : Nat) : Scan Unit := modify fun c => { c with offset := n }

/-- The character at the cursor, if any is left. -/
def peek? : Scan (Option Char) := return (← read)[(← offset)]?

/-- Whether the pattern is used up. -/
def atEnd : Scan Bool := return (← peek?).isNone

/-- Whether the cursor is at this character. -/
def isAt (c : Char) : Scan Bool := return (← peek?) == some c

/-- The empty span at the cursor. -/
def here : Scan Span := return Span.at (← offset)

/-- The span of the character at the cursor. -/
def hereChar : Scan Span := do
  let n ← offset
  return ⟨n, n + 1⟩

/-- The span from an offset to the cursor. -/
def since (start : Nat) : Scan Span := return ⟨start, ← offset⟩

/-- Pass over one character; says whether any is left after it. -/
def advance : Scan Bool := do
  let n ← offset
  if n < (← size) then goto (n + 1)
  return !(← atEnd)

/-- Whether the text at the cursor begins with these characters. -/
def looksAt (s : List Char) : Scan Bool := do
  let text ← read
  let n ← offset
  return (text.extract n (n + s.length)).toList == s

/-- Pass over these characters if the text at the cursor begins with them. -/
def accept (s : List Char) : Scan Bool := do
  if ← looksAt s then
    goto ((← offset) + s.length)
    return true
  else
    return false

/-- The offset after the blanks and comments that begin at offset `n`. -/
def afterBlanks (text : Array Char) : Nat → Nat → Bool → Nat
  | 0, n, _ => n
  | bound + 1, n, inComment =>
    match text[n]? with
    | none => n
    | some c =>
      if inComment then afterBlanks text bound (n + 1) (c != '\n')
      else if Text.isBlank c then afterBlanks text bound (n + 1) false
      else if c = '#' then afterBlanks text bound (n + 1) true
      else n

/-- In verbose mode, pass over blanks and comments. -/
def skipBlanks : Scan Unit := do
  let cursor ← get
  if cursor.verbose then
    let text ← read
    goto (afterBlanks text text.size cursor.offset false)

/-- Pass over one character and the blanks after it; says whether any character is left. -/
def advanceBlanks : Scan Bool := do
  let _ ← advance
  skipBlanks
  return !(← atEnd)

/-- The character after the one at the cursor. -/
def peekNext? : Scan (Option Char) := return (← read)[(← offset) + 1]?

/-- The character that decides what follows in verbose mode, from offset `n` on: the first one that
is no blank and opens no comment, or the first one after a `#`. -/
def decisive (text : Array Char) : Nat → Nat → Bool → Option Char
  | 0, _, _ => none
  | bound + 1, n, inComment =>
    match text[n]? with
    | none => none
    | some c =>
      if Text.isBlank c then decisive text bound (n + 1) inComment
      else if !inComment && c == '#' then decisive text bound (n + 1) true
      else some c

/-- The character after the one at the cursor, in verbose mode after blanks. If blanks and comments
run to the end of the pattern, it is the character next to the one at the cursor. -/
def peekNextBlanks? : Scan (Option Char) := do
  if ← atEnd then return none
  let cursor ← get
  let text ← read
  if cursor.verbose then
    return (decisive text text.size (cursor.offset + 1) false).or text[cursor.offset + 1]?
  else return text[cursor.offset + 1]?

/-- Collect characters as long as they satisfy `p`, moving by `move` after each. -/
def collectBy (move : Scan Bool) (p : Char → Bool) : Nat → Scan (List Char)
  | 0 => return []
  | bound + 1 => do
    match ← peek? with
    | some c =>
      if p c then
        let _ ← move
        return c :: (← collectBy move p bound)
      else return []
    | none => return []

/-- Collect characters as long as they satisfy `p`. -/
def collect (p : Char → Bool) : Scan (List Char) := do
  collectBy advance p (← size)

/-- Collect characters as long as they satisfy `p`; in verbose mode blanks between them are passed
over. -/
def collectBlanks (p : Char → Bool) : Scan (List Char) := do
  collectBy advanceBlanks p (← size)

end Scan

end Freshness.Pattern
