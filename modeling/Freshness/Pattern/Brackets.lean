import Freshness.Pattern.Escape

/-!
# Classes in brackets

A class in brackets is a union of items: literals, ranges, classes of other kinds, and further
brackets. Two unions are joined by the operators `&&`, `--` and `~~`, which group to the left. A
bracket directly after the opening one, and hyphens there, stand for themselves.
-/

namespace Freshness.Pattern.Scan

/-- The items of a union so far, and the span that they cover. -/
structure Items where
  span : Span
  items : List ClassSet

/-- The union with one more item. -/
def Items.push (u : Items) (c : ClassSet) : Items :=
  ⟨⟨if u.items.isEmpty then c.span.start else u.span.start, c.span.stop⟩, u.items ++ [c]⟩

/-- The class of a union: nothing, its only item, or the union itself. -/
def Items.classSet (u : Items) : ClassSet :=
  match u.items with
  | [] => .empty u.span
  | [c] => c
  | items => .union u.span items

/-- An ASCII class such as `[:alpha:]`, if one is at the cursor; otherwise the scan does not move. -/
def asciiClass? : Scan (Option ClassSet) := do
  let start ← offset
  let attempt : Scan (Option ClassSet) := do
    if !(← advance) || !(← isAt ':') then return none
    if !(← advance) then return none
    let negated ← isAt '^'
    if negated then
      if !(← advance) then return none
    let name ← collect (· != ':')
    if ← atEnd then return none
    if !(← accept [':', ']']) then return none
    match AsciiClass.ofName? (String.ofList name) with
    | some kind => return some (.ascii (← since start) kind negated)
    | none => return none
  match ← attempt with
  | some c => return some c
  | none =>
    goto start
    return none

/-- The item at the cursor: an escape, or a character that stands for itself. -/
def classItem : Scan Primitive := do
  match ← peek? with
  | some '\\' => escape
  | some c =>
    let span ← hereChar
    let _ ← advance
    return .literal ⟨span, c, false⟩
  | none => fail .escapeUnfinished (← here)

/-- The item or range at the cursor, inside the brackets whose opening has the span `opened`. -/
def classRange (opened : Span) : Scan ClassSet := do
  let first ← classItem
  skipBlanks
  if ← atEnd then fail .classUnclosed opened
  let next ← peekNextBlanks?
  if !(← isAt '-') || next == some ']' || next == some '-' then
    first.classSet
  else
    if !(← advanceBlanks) then fail .classUnclosed opened
    let last ← classItem
    let span : Span := ⟨first.span.start, last.span.stop⟩
    let l ← first.rangeEnd
    let r ← last.rangeEnd
    if r.char < l.char then fail .classRangeInvalid span
    return .range span l r

/-- The hyphens directly after an opening bracket at `start`, each a literal. -/
def leadingHyphens (start : Nat) : Nat → Items → Scan Items
  | 0, u => return u
  | bound + 1, u => do
    if ← isAt '-' then
      let span ← hereChar
      if !(← advanceBlanks) then fail .classUnclosed (Span.at start)
      leadingHyphens start bound (u.push (.literal ⟨span, '-', false⟩))
    else return u

/-- The opening of a class in brackets: its span, whether it is negated, and the items that belong
to the opening. -/
def openClass : Scan (Span × Bool × Items) := do
  let start ← offset
  if !(← advanceBlanks) then fail .classUnclosed (← since start)
  let negated ← isAt '^'
  if negated then
    if !(← advanceBlanks) then fail .classUnclosed (← since start)
  let u ← leadingHyphens start (← size) ⟨← here, []⟩
  if u.items.isEmpty && (← isAt ']') then
    let u := u.push (.literal ⟨← hereChar, ']', false⟩)
    if !(← advanceBlanks) then fail .classUnclosed (← since start)
    return (← since start, negated, u)
  else return (← since start, negated, u)

/-- The operator at the cursor, which is passed over. -/
def classOperator? : Scan (Option ClassOp) := do
  if ← accept ['&', '&'] then return some .intersection
  if ← accept ['-', '-'] then return some .difference
  if ← accept ['~', '~'] then return some .symmetricDifference
  return none

/-- The class that joins what stands to the left of an operator with what stands to its right. -/
def joined (left : Option (ClassOp × ClassSet)) (right : ClassSet) : ClassSet :=
  match left with
  | some (op, l) => .operation ⟨l.span.start, right.span.stop⟩ op l right
  | none => right

/-- The body of the brackets whose opening has the span `opened`, up to and with the closing
bracket. `left` is what stands before the last operator, `u` the union since then. -/
def classBody (opened : Span) : Nat → Option (ClassOp × ClassSet) → Items → Scan ClassSet
  | 0, _, _ => fail .classUnclosed opened
  | bound + 1, left, u => do
    skipBlanks
    if ← atEnd then fail .classUnclosed opened
    if ← isAt '[' then
      match ← asciiClass? with
      | some c => classBody opened bound left (u.push c)
      | none =>
        let start ← offset
        let (inner, negated, items) ← openClass
        let body ← classBody inner bound none items
        classBody opened bound left (u.push (.bracketed (← since start) negated body))
    else if ← isAt ']' then
      let _ ← advance
      return joined left u.classSet
    else
      match ← classOperator? with
      | some op => classBody opened bound (some (op, joined left u.classSet)) ⟨← here, []⟩
      | none => classBody opened bound left (u.push (← classRange opened))

/-- The class in brackets at the cursor. -/
def bracketed : Scan Node := do
  let start ← offset
  let (opened, negated, items) ← openClass
  let body ← classBody opened ((← size) + 1) none items
  return .bracketed (← since start) negated body

end Freshness.Pattern.Scan
