import Freshness.Pattern.Brackets
import Freshness.Unicode.Class

/-!
# Reading a pattern

A pattern is a sequence of alternatives, each a sequence of elements with their repetitions. Groups
nest; a flag group without a body changes the flags of the rest of the group that it stands in. A
pattern whose tree is too deep is refused after it was read.
-/

namespace Freshness.Pattern.Scan

/-! ## Repetitions -/

/-- A decimal number with blanks around it. The cursor ends after the number also when the number is
refused, with a fault of kind `whenEmpty` if it has no digits. -/
def decimalOrFault (whenEmpty : FaultKind) : Scan (Except Fault Nat) := do
  let _ ← collect Text.isBlank
  let start ← offset
  let digits ← collectBlanks Char.isDigit
  let span ← since start
  let _ ← collectBlanks Text.isBlank
  if digits.isEmpty then return .error ⟨whenEmpty, span⟩
  let n := digits.foldl (fun acc c => acc * 10 + (c.toNat - 48)) 0
  if n ≥ UInt32.size then return .error ⟨.decimalInvalid, span⟩
  return .ok n

/-- The last part of a sequence, if it can be repeated. -/
def repeatable? (parts : List Node) : Option Node :=
  match parts.getLast? with
  | some (.empty _) | some (.flags ..) | none => none
  | some n => some n

/-- The sequence with its last part repeated. -/
def repeatLast (parts : List Node) (last : Node) (least : Nat) (most : Option Nat) (eager : Bool) :
    Scan (List Node) := do
  return parts.dropLast ++ [.repetition ⟨last.span.start, ← offset⟩ least most eager last]

/-- A repetition by one of the signs `?`, `*` and `+`. Another `?` makes it reluctant. -/
def signRepetition (parts : List Node) (least : Nat) (most : Option Nat) : Scan (List Node) := do
  match repeatable? parts with
  | none => fail .repetitionMissing (← here)
  | some last =>
    let _ ← advance
    let reluctant ← isAt '?'
    if reluctant then
      let _ ← advance
    repeatLast parts last least most !reluctant

/-- The lower and the upper bound between braces. A missing closing brace is found before a bad lower
bound. -/
def countBounds (start : Nat) : Scan (Nat × Option Nat) := do
  let least ← decimalOrFault .countEmpty
  if ← atEnd then fail .countUnclosed (← since start)
  if ← isAt ',' then
    if !(← advanceBlanks) then fail .countUnclosed (← since start)
    let l ← MonadExcept.ofExcept least
    if ← isAt '\x7d' then return (l, none)
    let most ← decimalOrFault .countEmpty
    return (l, some (← MonadExcept.ofExcept most))
  else
    let l ← MonadExcept.ofExcept least
    return (l, some l)

/-- A repetition by a count between braces. -/
def countRepetition (parts : List Node) : Scan (List Node) := do
  let start ← offset
  match repeatable? parts with
  | none => fail .repetitionMissing (← here)
  | some last =>
    if !(← advanceBlanks) then fail .countUnclosed (← since start)
    let (least, most) ← countBounds start
    if !(← isAt '\x7d') then fail .countUnclosed (← since start)
    let reluctant := (← advanceBlanks) && (← isAt '?')
    if reluctant then
      let _ ← advance
    let span ← since start
    match most with
    | some m => if m < least then fail .countInvalid span
    | none => pure ()
    repeatLast parts last least most !reluctant

/-! ## Groups -/

/-- A change of flags as it is read: what it does so far, the place of its negation sign, the places
of its flags, and whether the sign was the last thing read. -/
structure FlagScan where
  change : FlagChange
  negation : Option Span
  places : List (Flag × Span)
  dangling : Bool

/-- The flags up to a colon or a closing parenthesis. -/
def flagsFrom : Nat → FlagScan → Scan FlagChange
  | 0, s => return s.change
  | bound + 1, s => do
    let span ← hereChar
    match ← peek? with
    | none => fail .flagUnfinished (← here)
    | some c =>
      if c = ':' ∨ c = ')' then
        match s.negation, s.dangling with
        | some sign, true => fail .flagDanglingNegation sign
        | _, _ => return s.change
      let next ← (do
        if c = '-' then
          match s.negation with
          | some earlier => fail (.flagRepeatedNegation earlier) span
          | none => return { s with negation := some span, dangling := true }
        else
          match Flag.ofChar? c with
          | none => fail .flagUnrecognized span
          | some flag =>
            match s.places.find? (·.1 == flag) with
            | some (_, earlier) => fail (.flagDuplicate earlier) span
            | none =>
              return ⟨s.change ++ [(flag, s.negation.isNone)], s.negation,
                s.places ++ [(flag, span)], false⟩)
      if !(← advance) then fail .flagUnfinished (← here)
      flagsFrom bound next

/-- Whether a character may stand in the name of a group. -/
def isNameChar (c : Char) (first : Bool) : Bool :=
  if first then c == '_' || Unicode.alphabetic.mem c
  else c == '_' || c == '.' || c == '[' || c == ']' || Unicode.alphabetic.mem c
    || Unicode.numeric.mem c

/-- The characters of a group's name, up to the closing angle bracket. -/
def nameChars : Nat → Bool → Scan (List Char)
  | 0, _ => return []
  | bound + 1, first => do
    match ← peek? with
    | none => return []
    | some '>' => return []
    | some c =>
      if !isNameChar c first then fail .groupNameInvalid (← hereChar)
      if ← advance then return c :: (← nameChars bound false)
      else return [c]

/-- The name of a group, which no earlier group may have. -/
def groupName : Scan Unit := do
  if ← atEnd then fail .groupNameUnfinished (← here)
  let start ← offset
  let name ← nameChars (← size) true
  let span ← since start
  if ← atEnd then fail .groupNameUnfinished (← here)
  let _ ← advance
  if name.isEmpty then fail .groupNameEmpty (Span.at start)
  let key := String.ofList name
  match (← get).names.find? (·.1 == key) with
  | some (_, earlier) => fail (.groupNameDuplicate earlier) span
  | none => modify fun c => { c with names := c.names ++ [(key, span)] }

/-- What an opening parenthesis begins: a change of flags for what follows, or a group, which captures
or has a change of flags for its body. -/
inductive Opening where
  | flags (span : Span) (change : FlagChange)
  | group (captures : Bool) (change : FlagChange)

/-- What the opening parenthesis at the cursor begins. -/
def opening : Scan Opening := do
  let paren ← hereChar
  let _ ← advance
  skipBlanks
  let look ← (do
    if ← accept ['?', '='] then return true
    if ← accept ['?', '!'] then return true
    if ← accept ['?', '<', '='] then return true
    accept ['?', '<', '!'])
  if look then fail .lookAround (← since paren.start)
  let inner ← here
  let named ← (do
    if ← accept ['?', 'P', '<'] then return true
    accept ['?', '<'])
  if named then
    groupName
    return .group true []
  if ← accept ['?'] then
    if ← atEnd then fail .groupUnclosed paren
    let change ← flagsFrom ((← size) + 1) ⟨[], none, [], false⟩
    let closing ← isAt ')'
    let _ ← advance
    if closing then
      if change.isEmpty then fail .repetitionMissing inner
      return .flags (← since paren.start) change
    return .group false change
  return .group true []

/-! ## Sequences and alternatives -/

/-- The node of a sequence: nothing, its only part, or the sequence itself. -/
def sequence (span : Span) (parts : List Node) : Node :=
  match parts with
  | [] => .empty span
  | [n] => n
  | parts => .concat span parts

/-- The node of alternatives. -/
def alternatives (span : Span) (branches : List Node) : Node :=
  match branches with
  | [n] => n
  | branches => .alternation span branches

/-- The alternatives from `start` on, up to the end of the pattern or of the group whose opening
parenthesis is `opened`. `branches` are the finished ones; `parts` are those of the branch under way,
which began at `branch`. -/
def alternation (opened : Option Span) (start : Nat) :
    Nat → List Node → Nat → List Node → Scan Node
  | 0, branches, branch, parts => do
    return alternatives (← since start) (branches ++ [sequence (← since branch) parts])
  | bound + 1, branches, branch, parts => do
    skipBlanks
    match ← peek? with
    | none =>
      match opened with
      | some paren => fail .groupUnclosed paren
      | none =>
        return alternatives (← since start) (branches ++ [sequence (← since branch) parts])
    | some ')' =>
      match opened with
      | some _ =>
        return alternatives (← since start) (branches ++ [sequence (← since branch) parts])
      | none => fail .groupUnopened (← hereChar)
    | some '|' =>
      let finished := sequence (← since branch) parts
      let _ ← advance
      alternation opened start bound (branches ++ [finished]) (← offset) []
    | some '(' =>
      let paren ← hereChar
      match ← opening with
      | .flags span change =>
        match change.state? .ignoreWhitespace with
        | some v => modify fun c => { c with verbose := v }
        | none => pure ()
        alternation opened start bound branches branch (parts ++ [.flags span change])
      | .group captures change =>
        let outer := (← get).verbose
        modify fun c => { c with verbose := (change.state? .ignoreWhitespace).getD outer }
        let inner ← offset
        let body ← alternation (some paren) inner bound [] inner []
        modify fun c => { c with verbose := outer }
        let _ ← advance
        alternation opened start bound branches branch
          (parts ++ [.group (← since paren.start) captures change body])
    | some '[' => alternation opened start bound branches branch (parts ++ [← bracketed])
    | some '?' => alternation opened start bound branches branch (← signRepetition parts 0 (some 1))
    | some '*' => alternation opened start bound branches branch (← signRepetition parts 0 none)
    | some '+' => alternation opened start bound branches branch (← signRepetition parts 1 none)
    | some '\x7b' => alternation opened start bound branches branch (← countRepetition parts)
    | some _ => alternation opened start bound branches branch (parts ++ [(← primitive).node])

end Scan

/-- The greatest depth of the tree of a pattern. -/
def depthLimit : Nat := 250

/-- The tree of a pattern, or its first fault. -/
def parse (pattern : String) : Except Fault Node := do
  let text := pattern.toList.toArray
  let (node, _) ← ((Scan.alternation none 0 (text.size + 1) [] 0 []).run text).run ⟨0, false, []⟩
  match node.tooDeep? depthLimit with
  | some span => throw ⟨.nestedTooDeep depthLimit, span⟩
  | none => return node

end Freshness.Pattern
