import Freshness.Pattern.Fault

/-!
# The syntax of patterns

A pattern is read into a tree of nodes, each with the span of the text that it was read from. The
tree keeps what was written: flags are nodes of their own, and classes keep their set operations.
`Node.tooDeep?` finds the first node, in the order of the text, that lies deeper than a limit.
-/

namespace Freshness.Pattern

/-! ## Flags -/

/-- The flags of a pattern. -/
inductive Flag where
  | caseInsensitive
  | multiLine
  | dotMatchesNewLine
  | swapGreed
  | unicode
  | carriageReturn
  | ignoreWhitespace
  deriving DecidableEq, Repr

/-- The flag of a letter. -/
def Flag.ofChar? : Char → Option Flag
  | 'i' => some caseInsensitive
  | 'm' => some multiLine
  | 's' => some dotMatchesNewLine
  | 'U' => some swapGreed
  | 'u' => some unicode
  | 'R' => some carriageReturn
  | 'x' => some ignoreWhitespace
  | _ => none

/-- A change of flags: each flag that is named, and whether it is switched on. -/
abbrev FlagChange := List (Flag × Bool)

/-- What a change does to a flag; `none` if it does not name it. -/
def FlagChange.state? (change : FlagChange) (flag : Flag) : Option Bool :=
  (change.find? (·.1 == flag)).map (·.2)

/-! ## Characters and classes -/

/-- A character that stands for itself; `isByte` marks one written as two hexadecimal digits. -/
structure Literal where
  span : Span
  char : Char
  isByte : Bool
  deriving DecidableEq, Repr

/-- The classes with a one-letter escape. -/
inductive ShortClass where
  | digit
  | space
  | word
  deriving DecidableEq, Repr

/-- The ASCII classes with a name in brackets. -/
inductive AsciiClass where
  | alnum | alpha | ascii | blank | cntrl | digit | graph | lower | print | punct | space | upper
  | word | xdigit
  deriving DecidableEq, Repr

/-- The class of a name. -/
def AsciiClass.ofName? : String → Option AsciiClass
  | "alnum" => some alnum
  | "alpha" => some alpha
  | "ascii" => some ascii
  | "blank" => some blank
  | "cntrl" => some cntrl
  | "digit" => some digit
  | "graph" => some graph
  | "lower" => some lower
  | "print" => some print
  | "punct" => some punct
  | "space" => some space
  | "upper" => some upper
  | "word" => some word
  | "xdigit" => some xdigit
  | _ => none

/-- How a class of characters is named in an escape: by one name, or by a property and a value that
its members have, or that they do not have if `unequal`. -/
inductive ClassName where
  | one (name : List Char)
  | valued (property value : List Char) (unequal : Bool)
  deriving DecidableEq, Repr

/-- Whether a name stands for the characters that do not have the value. -/
def ClassName.excludes : ClassName → Bool
  | one _ => false
  | valued _ _ unequal => unequal

/-- The operations on two classes. -/
inductive ClassOp where
  | intersection
  | difference
  | symmetricDifference
  deriving DecidableEq, Repr

/-- What may stand inside brackets. -/
inductive ClassSet where
  | empty (span : Span)
  | literal (l : Literal)
  | range (span : Span) (first last : Literal)
  | ascii (span : Span) (kind : AsciiClass) (negated : Bool)
  | short (span : Span) (kind : ShortClass) (negated : Bool)
  | named (span : Span) (name : ClassName) (negated : Bool)
  | bracketed (span : Span) (negated : Bool) (body : ClassSet)
  | union (span : Span) (items : List ClassSet)
  | operation (span : Span) (op : ClassOp) (left right : ClassSet)
  deriving Repr

/-- The span of a part of a class. -/
def ClassSet.span : ClassSet → Span
  | empty s => s
  | literal l => l.span
  | range s _ _ => s
  | ascii s _ _ => s
  | short s _ _ => s
  | named s _ _ => s
  | bracketed s _ _ => s
  | union s _ => s
  | operation s _ _ _ => s

/-! ## Nodes -/

/-- Assertions about a position. -/
inductive Assertion where
  | startLine
  | endLine
  | startText
  | endText
  | wordBoundary
  | notWordBoundary
  | wordStart
  | wordEnd
  | wordStartHalf
  | wordEndHalf
  deriving DecidableEq, Repr

/-- A node of the tree. An eager repetition prefers more runs of its body to fewer. -/
inductive Node where
  | empty (span : Span)
  | flags (span : Span) (change : FlagChange)
  | literal (l : Literal)
  | dot (span : Span)
  | assertion (span : Span) (kind : Assertion)
  | short (span : Span) (kind : ShortClass) (negated : Bool)
  | named (span : Span) (name : ClassName) (negated : Bool)
  | bracketed (span : Span) (negated : Bool) (body : ClassSet)
  | repetition (span : Span) (least : Nat) (most : Option Nat) (eager : Bool) (body : Node)
  | group (span : Span) (captures : Bool) (change : FlagChange) (body : Node)
  | alternation (span : Span) (branches : List Node)
  | concat (span : Span) (parts : List Node)
  deriving Repr

/-- The span of a node. -/
def Node.span : Node → Span
  | empty s => s
  | flags s _ => s
  | literal l => l.span
  | dot s => s
  | assertion s _ => s
  | short s _ _ => s
  | named s _ _ => s
  | bracketed s _ _ => s
  | repetition s _ _ _ _ => s
  | group s _ _ _ => s
  | alternation s _ => s
  | concat s _ => s

/-! ## Depth -/

mutual

/-- The span of the first part of a class that lies below more than `room` enclosing parts. -/
def ClassSet.tooDeep? (room : Nat) : ClassSet → Option Span
  | .bracketed s _ body => if room = 0 then some s else body.tooDeep? (room - 1)
  | .union s items => if room = 0 then some s else ClassSet.anyTooDeep? (room - 1) items
  | .operation s _ l r =>
    if room = 0 then some s else (l.tooDeep? (room - 1)).or (r.tooDeep? (room - 1))
  | _ => none

/-- The first such part of several. -/
def ClassSet.anyTooDeep? (room : Nat) : List ClassSet → Option Span
  | [] => none
  | c :: rest => (c.tooDeep? room).or (ClassSet.anyTooDeep? room rest)

end

mutual

/-- The span of the first node that lies below more than `room` enclosing nodes. -/
def Node.tooDeep? (room : Nat) : Node → Option Span
  | .bracketed s _ body => if room = 0 then some s else body.tooDeep? (room - 1)
  | .repetition s _ _ _ body => if room = 0 then some s else body.tooDeep? (room - 1)
  | .group s _ _ body => if room = 0 then some s else body.tooDeep? (room - 1)
  | .alternation s branches => if room = 0 then some s else Node.anyTooDeep? (room - 1) branches
  | .concat s parts => if room = 0 then some s else Node.anyTooDeep? (room - 1) parts
  | _ => none

/-- The first such node of several. -/
def Node.anyTooDeep? (room : Nat) : List Node → Option Span
  | [] => none
  | n :: rest => (n.tooDeep? room).or (Node.anyTooDeep? room rest)

end

end Freshness.Pattern
