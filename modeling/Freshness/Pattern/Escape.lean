import Freshness.Pattern.Scan

/-!
# Escapes

A backslash begins an escape: a literal character, a class, or an assertion. The scan stands on the
backslash and ends after the escape. Digits are refused, since they would refer back to a group.
-/

namespace Freshness.Pattern

/-- The smallest parts of a pattern. -/
inductive Primitive where
  | literal (l : Literal)
  | assertion (span : Span) (kind : Assertion)
  | dot (span : Span)
  | short (span : Span) (kind : ShortClass) (negated : Bool)
  | named (span : Span) (name : ClassName) (negated : Bool)
  deriving Repr

namespace Primitive

/-- The span of a primitive. -/
def span : Primitive → Span
  | literal l => l.span
  | assertion s _ => s
  | dot s => s
  | short s _ _ => s
  | named s _ _ => s

/-- The node of a primitive that stands outside brackets. -/
def node : Primitive → Node
  | literal l => .literal l
  | assertion s k => .assertion s k
  | dot s => .dot s
  | short s k n => .short s k n
  | named s k n => .named s k n

/-- The class of a primitive that stands inside brackets; assertions have none. -/
def classSet : Primitive → Scan ClassSet
  | literal l => return .literal l
  | short s k n => return .short s k n
  | named s k n => return .named s k n
  | p => Scan.fail .classEscapeInvalid p.span

/-- The literal of a primitive that bounds a range. -/
def rangeEnd : Primitive → Scan Literal
  | literal l => return l
  | p => Scan.fail .classRangeLiteral p.span

end Primitive

/-- Characters with a meaning of their own, which stand for themselves after a backslash. -/
def isMeta (c : Char) : Bool :=
  "\\.+*?()|[]\x7b\x7d^$#&-~".toList.contains c

/-- Characters that may follow a backslash to stand for themselves: ASCII characters other than
letters, digits and angle brackets. -/
def isEscapable (c : Char) : Bool :=
  isMeta c || (c.toNat < 0x80 && !c.isAlphanum && c != '<' && c != '>')

/-- Whether a character is a hexadecimal digit. -/
def isHexDigit (c : Char) : Bool :=
  c.isDigit || ('a' ≤ c && c ≤ 'f') || ('A' ≤ c && c ≤ 'F')

/-- The value of a hexadecimal digit. -/
def hexValue (c : Char) : Nat :=
  if c.isDigit then c.toNat - 48 else if 'a' ≤ c then c.toNat - 87 else c.toNat - 55

/-- The character that hexadecimal digits name, if they name one. -/
def charOfHex? (digits : List Char) : Option Char :=
  let n := digits.foldl (fun acc c => min (acc * 16 + hexValue c) 0x110000) 0
  if n < 0xD800 ∨ (0xDFFF < n ∧ n < 0x110000) then some (Char.ofNat n) else none

namespace Scan

/-! ## Hexadecimal escapes -/

/-- As many hexadecimal digits as asked for. -/
def hexDigits : Nat → Bool → Scan (List Char)
  | 0, _ => return []
  | n + 1, first => do
    if !first then
      if !(← advanceBlanks) then fail .escapeUnfinished (← here)
    match ← peek? with
    | some c =>
      if isHexDigit c then return c :: (← hexDigits n false)
      else fail .hexInvalidDigit (← hereChar)
    | none => fail .escapeUnfinished (← here)

/-- An escape of a fixed number of hexadecimal digits. -/
def hexFixed (count : Nat) : Scan Literal := do
  let start ← offset
  let digits ← hexDigits count true
  let _ ← advanceBlanks
  let span ← since start
  match charOfHex? digits with
  | some c => return ⟨span, c, count == 2⟩
  | none => fail .hexInvalid span

/-- The hexadecimal digits up to a closing brace. -/
def hexBody : Nat → Scan (List Char)
  | 0 => return []
  | bound + 1 => do
    if !(← advanceBlanks) then return []
    match ← peek? with
    | some '\x7d' => return []
    | some c =>
      if isHexDigit c then return c :: (← hexBody bound)
      else fail .hexInvalidDigit (← hereChar)
    | none => return []

/-- An escape of hexadecimal digits between braces. Its span goes on to where the scan ends, so that
blanks after the braces belong to it. -/
def hexBraced : Scan Literal := do
  let brace ← offset
  let digits ← hexBody (← size)
  if ← atEnd then fail .escapeUnfinished (← since brace)
  let inner ← since (brace + 1)
  let _ ← advanceBlanks
  if digits.isEmpty then fail .hexEmpty (← since brace)
  match charOfHex? digits with
  | some c => return ⟨← since (brace + 1), c, false⟩
  | none => fail .hexInvalid inner

/-- The hexadecimal escape of a letter: two digits, four, or eight. -/
def hexEscape (letter : Char) : Scan Literal := do
  if !(← advanceBlanks) then fail .escapeUnfinished (← here)
  if ← isAt '\x7b' then hexBraced
  else hexFixed (if letter = 'x' then 2 else if letter = 'u' then 4 else 8)

/-! ## Named classes -/

/-- The two parts of a text around the first place where `cut` occurs. -/
def splitAtFirst (cut : List Char) : List Char → Option (List Char × List Char)
  | [] => none
  | c :: rest =>
    if cut.isPrefixOf (c :: rest) then some ([], (c :: rest).drop cut.length)
    else (splitAtFirst cut rest).map fun (before, after) => (c :: before, after)

/-- The name of a class as it is written between braces. -/
def className (name : List Char) : ClassName :=
  match splitAtFirst ['!', '='] name with
  | some (property, value) => .valued property value true
  | none =>
    match (splitAtFirst [':'] name).or (splitAtFirst ['='] name) with
    | some (property, value) => .valued property value false
    | none => .one name

/-- The characters up to a closing brace. -/
def nameBody : Nat → Scan (List Char)
  | 0 => return []
  | bound + 1 => do
    if !(← advanceBlanks) then return []
    match ← peek? with
    | some '\x7d' => return []
    | some c => return c :: (← nameBody bound)
    | none => return []

/-- The name of a class: one letter, or a text between braces. -/
def namedClass : Scan ClassName := do
  if !(← advanceBlanks) then fail .escapeUnfinished (← here)
  match ← peek? with
  | some '\x7b' =>
    let name ← nameBody (← size)
    if ← atEnd then fail .escapeUnfinished (← here)
    let _ ← advance
    return className name
  | some c =>
    if c = '\\' then fail .unicodeClassInvalid (← hereChar)
    let _ ← advanceBlanks
    return .one [c]
  | none => fail .escapeUnfinished (← here)

/-! ## Word boundaries -/

/-- The assertion of a named word boundary. -/
def boundaryOfName? : String → Option Assertion
  | "start" => some .wordStart
  | "end" => some .wordEnd
  | "start-half" => some .wordStartHalf
  | "end-half" => some .wordEndHalf
  | _ => none

/-- The name of a word boundary in braces after the escape that began at `start`. Braces that do not
begin with a letter or a hyphen are a count: the scan goes back before them. -/
def boundaryName? (start : Nat) : Scan (Option Assertion) := do
  let brace ← offset
  if !(← advanceBlanks) then fail .wordBoundaryOrCountUnfinished (← since start)
  let contents ← offset
  let isName (c : Char) : Bool := c.isAlpha || c == '-'
  match ← peek? with
  | some c =>
    if isName c then
      let name ← collectBlanks isName
      if !(← isAt '\x7d') then fail .wordBoundaryUnclosed (← since brace)
      let named ← since contents
      let _ ← advance
      match boundaryOfName? (String.ofList name) with
      | some kind => return some kind
      | none => fail .wordBoundaryUnrecognized named
    else
      goto brace
      return none
  | none => fail .wordBoundaryOrCountUnfinished (← since start)

/-! ## All escapes -/

/-- The control characters with a letter of their own. -/
def controlOfLetter? : Char → Option Char
  | 'a' => some '\x07'
  | 'f' => some '\x0c'
  | 't' => some '\t'
  | 'n' => some '\n'
  | 'r' => some '\r'
  | 'v' => some '\x0b'
  | _ => none

/-- The assertions with a letter of their own, `b` apart. -/
def assertionOfLetter? : Char → Option Assertion
  | 'A' => some .startText
  | 'z' => some .endText
  | 'B' => some .notWordBoundary
  | '<' => some .wordStart
  | '>' => some .wordEnd
  | _ => none

/-- The classes with a letter of their own; a capital letter negates. -/
def shortOfLetter? : Char → Option (ShortClass × Bool)
  | 'd' => some (.digit, false)
  | 's' => some (.space, false)
  | 'w' => some (.word, false)
  | 'D' => some (.digit, true)
  | 'S' => some (.space, true)
  | 'W' => some (.word, true)
  | _ => none

/-- The escape at the cursor. -/
def escape : Scan Primitive := do
  let start ← offset
  let _ ← advance
  match ← peek? with
  | none => fail .escapeUnfinished (← since start)
  | some c =>
    if c.isDigit then fail .backreference ⟨start, (← hereChar).stop⟩
    if c = 'x' ∨ c = 'u' ∨ c = 'U' then
      let l ← hexEscape c
      return .literal { l with span := ⟨start, l.span.stop⟩ }
    if c = 'p' ∨ c = 'P' then
      let name ← namedClass
      return .named (← since start) name (c = 'P')
    let _ ← advance
    let span ← since start
    match shortOfLetter? c with
    | some (kind, negated) => return .short span kind negated
    | none => pure ()
    if isEscapable c then return .literal ⟨span, c, false⟩
    match controlOfLetter? c with
    | some control => return .literal ⟨span, control, false⟩
    | none => pure ()
    match assertionOfLetter? c with
    | some kind => return .assertion span kind
    | none => pure ()
    if c = 'b' then
      if ← isAt '\x7b' then
        match ← boundaryName? start with
        | some kind => return .assertion (← since start) kind
        | none => pure ()
      return .assertion span .wordBoundary
    fail .escapeUnrecognized span

/-- The primitive at the cursor. -/
def primitive : Scan Primitive := do
  match ← peek? with
  | some '\\' => escape
  | some c =>
    let span ← hereChar
    let _ ← advance
    match c with
    | '.' => return .dot span
    | '^' => return .assertion span .startLine
    | '$' => return .assertion span .endLine
    | _ => return .literal ⟨span, c, false⟩
  | none => fail .escapeUnfinished (← here)

end Scan

end Freshness.Pattern
