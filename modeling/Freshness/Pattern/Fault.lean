/-!
# Faults of a pattern

A pattern that cannot be read or given a meaning has a fault: what is wrong, where it is, and for
some kinds a second place that it clashes with. Places are spans of character offsets. `Fault.report`
shows the pattern with the places marked below it, and the message of the fault.

A pattern of one line is indented by four blanks. A pattern of several lines is shown between two
rulers, each line with its number; a place that runs over several lines is named after the second
ruler instead of being marked.
-/

namespace Freshness.Pattern

/-- The characters of a pattern from offset `start` up to, but not including, offset `stop`. -/
structure Span where
  start : Nat
  stop : Nat
  deriving DecidableEq, Repr, Inhabited

/-- The empty span at an offset. -/
def Span.at (offset : Nat) : Span := ⟨offset, offset⟩

/-- What can be wrong with a pattern. -/
inductive FaultKind where
  | classEscapeInvalid
  | classRangeInvalid
  | classRangeLiteral
  | classUnclosed
  | decimalEmpty
  | decimalInvalid
  | hexEmpty
  | hexInvalid
  | hexInvalidDigit
  | escapeUnfinished
  | escapeUnrecognized
  | flagDanglingNegation
  | flagDuplicate (earlier : Span)
  | flagRepeatedNegation (earlier : Span)
  | flagUnfinished
  | flagUnrecognized
  | groupNameDuplicate (earlier : Span)
  | groupNameEmpty
  | groupNameInvalid
  | groupNameUnfinished
  | groupUnclosed
  | groupUnopened
  | nestedTooDeep (limit : Nat)
  | countInvalid
  | countEmpty
  | countUnclosed
  | repetitionMissing
  | wordBoundaryUnclosed
  | wordBoundaryUnrecognized
  | wordBoundaryOrCountUnfinished
  | unicodeClassInvalid
  | backreference
  | lookAround
  | unicodeNotAllowed
  | invalidEncoding
  | propertyUnknown
  | propertyValueUnknown
  deriving DecidableEq, Repr

/-- The message of each kind of fault. -/
def FaultKind.message : FaultKind → String
  | classEscapeInvalid => "invalid escape sequence found in character class"
  | classRangeInvalid => "invalid character class range, the start must be <= the end"
  | classRangeLiteral => "invalid range boundary, must be a literal"
  | classUnclosed => "unclosed character class"
  | decimalEmpty => "decimal literal empty"
  | decimalInvalid => "decimal literal invalid"
  | hexEmpty => "hexadecimal literal empty"
  | hexInvalid => "hexadecimal literal is not a Unicode scalar value"
  | hexInvalidDigit => "invalid hexadecimal digit"
  | escapeUnfinished => "incomplete escape sequence, reached end of pattern prematurely"
  | escapeUnrecognized => "unrecognized escape sequence"
  | flagDanglingNegation => "dangling flag negation operator"
  | flagDuplicate _ => "duplicate flag"
  | flagRepeatedNegation _ => "flag negation operator repeated"
  | flagUnfinished => "expected flag but got end of regex"
  | flagUnrecognized => "unrecognized flag"
  | groupNameDuplicate _ => "duplicate capture group name"
  | groupNameEmpty => "empty capture group name"
  | groupNameInvalid => "invalid capture group character"
  | groupNameUnfinished => "unclosed capture group name"
  | groupUnclosed => "unclosed group"
  | groupUnopened => "unopened group"
  | nestedTooDeep limit =>
    "exceed the maximum number of nested parentheses/brackets (" ++ toString limit ++ ")"
  | countInvalid => "invalid repetition count range, the start must be <= the end"
  | countEmpty => "repetition quantifier expects a valid decimal"
  | countUnclosed => "unclosed counted repetition"
  | repetitionMissing => "repetition operator missing expression"
  | wordBoundaryUnclosed =>
    "special word boundary assertion is either unclosed or contains an invalid character"
  | wordBoundaryUnrecognized =>
    "unrecognized special word boundary assertion, valid choices are: start, end, start-half or "
      ++ "end-half"
  | wordBoundaryOrCountUnfinished =>
    "found either the beginning of a special word boundary or a bounded repetition on a \\b with "
      ++ "an opening brace, but no closing brace"
  | unicodeClassInvalid => "invalid Unicode character class"
  | backreference => "backreferences are not supported"
  | lookAround => "look-around, including look-ahead and look-behind, is not supported"
  | unicodeNotAllowed => "Unicode not allowed here"
  | invalidEncoding => "pattern can match invalid UTF-8"
  | propertyUnknown => "Unicode property not found"
  | propertyValueUnknown => "Unicode property value not found"

/-- The earlier place that a fault of this kind clashes with. -/
def FaultKind.earlier? : FaultKind → Option Span
  | flagDuplicate s => some s
  | flagRepeatedNegation s => some s
  | groupNameDuplicate s => some s
  | _ => none

/-- What is wrong with a pattern, and where. -/
structure Fault where
  kind : FaultKind
  span : Span
  deriving DecidableEq, Repr

/-! ## Lines and columns -/

/-- A place in a text of several lines; both numbers start at one. -/
structure Place where
  line : Nat
  column : Nat
  deriving DecidableEq, Repr

/-- The place reached after reading the characters `read` from `p` on. -/
def Place.after (p : Place) (read : List Char) : Place :=
  read.foldl (fun p c => if c = '\n' then ⟨p.line + 1, 1⟩ else ⟨p.line, p.column + 1⟩) p

/-- The place of an offset in a text. -/
def Place.ofOffset (text : List Char) (offset : Nat) : Place :=
  Place.after ⟨1, 1⟩ (text.take offset)

/-- A span by the places of its two ends. -/
structure Extent where
  first : Place
  last : Place
  deriving DecidableEq, Repr

/-- The extent of a span in a text. -/
def Span.extent (text : List Char) (s : Span) : Extent :=
  ⟨Place.ofOffset text s.start, Place.ofOffset text s.stop⟩

/-- Whether both ends lie on one line. -/
def Extent.isOneLine (e : Extent) : Bool :=
  e.first.line == e.last.line

/-- Whether one extent comes before another: by its first place, then by its last. -/
def Extent.le (a b : Extent) : Bool :=
  let key (e : Extent) := (e.first.line, e.first.column, e.last.line, e.last.column)
  let (a₁, a₂, a₃, a₄) := key a
  let (b₁, b₂, b₃, b₄) := key b
  a₁ < b₁ || (a₁ == b₁ && (a₂ < b₂ || (a₂ == b₂ && (a₃ < b₃ || (a₃ == b₃ && a₄ ≤ b₄)))))

/-- The lines of a text: it is cut after each line feed, and the line feed, with a carriage return
before it, is dropped. A text that ends with a line feed has no further line. -/
def splitLines (text : List Char) : List (List Char) :=
  match text.splitOn '\n' with
  | [] => []
  | parts =>
    let whole := if parts.getLast? = some [] then parts.dropLast else parts
    let closed := parts.length - 1
    whole.mapIdx fun i l => if i < closed ∧ l.getLast? = some '\r' then l.dropLast else l

/-! ## The report -/

/-- `n` copies of a character. -/
def copies (n : Nat) (c : Char) : List Char := List.replicate n c

/-- The number of a line, padded with blanks on the left to a width. -/
def paddedNumber (n width : Nat) : List Char :=
  let digits := (toString n).toList
  copies (width - digits.length) ' ' ++ digits

/-- The line that marks the places of one line, or `none` if there are none. -/
def markedLine? (indent : Nat) (extents : List Extent) : Option (List Char) :=
  if extents.isEmpty then none
  else some (extents.foldl
    (fun notes e =>
      let notes := notes ++ copies (e.first.column - 1 + indent - notes.length) ' '
      notes ++ copies (max 1 (e.last.column - e.first.column)) '^')
    (copies indent ' '))

/-- The pattern with the one-line places marked below its lines. -/
def annotated (text : List Char) (width : Nat) (extents : List Extent) : List Char :=
  let onLine (i : Nat) := ((extents.filter (·.isOneLine)).filter (·.first.line == i + 1)).mergeSort
    Extent.le
  let indent := if width = 0 then 4 else 2 + width
  ((splitLines text).mapIdx fun i line =>
    (if width = 0 then copies 4 ' ' else paddedNumber (i + 1) width ++ [':', ' '])
      ++ line ++ ['\n']
      ++ (match markedLine? indent (onLine i) with
          | some notes => notes ++ ['\n']
          | none => [])).flatten

/-- The sentence that names a place of several lines. -/
def Extent.sentence (e : Extent) : String :=
  "on line " ++ toString e.first.line ++ " (column " ++ toString e.first.column ++ ") through line "
    ++ toString e.last.line ++ " (column " ++ toString (e.last.column - 1) ++ ")"

/-- The width of the line numbers of a text: none for a text of one line. -/
def numberWidth (text : List Char) : Nat :=
  let lines := (splitLines text).length + (if text.getLast? = some '\n' then 1 else 0)
  if lines ≤ 1 then 0 else (toString lines).length

/-- The report on a fault of a pattern. -/
def Fault.report (f : Fault) (pattern : String) : String :=
  let text := pattern.toList
  let extents := ((f.span :: f.kind.earlier?.toList).map (·.extent text)).mergeSort Extent.le
  let body := String.ofList (annotated text (numberWidth text) extents)
  let ruler := String.ofList (copies 79 '~') ++ "\n"
  let ending := "error: " ++ f.kind.message
  if text.contains '\n' then
    let long := (extents.filter (!·.isOneLine)).map Extent.sentence
    "regex parse error:\n" ++ ruler ++ body ++ ruler
      ++ (if long.isEmpty then "" else "\n".intercalate long ++ "\n") ++ ending
  else "regex parse error:\n" ++ body ++ ending

end Freshness.Pattern
