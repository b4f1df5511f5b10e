import Freshness.Pattern.CharClass
import Freshness.Pattern.Parser
import Freshness.Unicode.Lookup

/-!
# The meaning of a pattern

The flags of a pattern are resolved while its tree is turned into an `Expr`: what is left says only
which characters may come next, which positions are allowed, and which choices are preferred. A flag
group changes the flags up to the end of the group that it stands in, through all later alternatives
of that group.

Earlier alternatives are preferred to later ones, and an eager repetition prefers more runs to fewer.
Alternatives of several parts that all begin with the same parts share these: what is shared is matched
once, and the choice is made after it.

Without the Unicode flag a class may hold ASCII characters only, since a pattern must match whole
characters; the dot and every negated class are refused then.
-/

namespace Freshness.Pattern

open Freshness.Unicode

/-- A condition on a position of a text. -/
inductive Look where
  | textStart
  | textEnd
  | lineStart (carriageReturn : Bool)
  | lineEnd (carriageReturn : Bool)
  | wordBoundary (unicode : Bool)
  | notWordBoundary (unicode : Bool)
  | wordStart (unicode : Bool)
  | wordEnd (unicode : Bool)
  | wordStartHalf (unicode : Bool)
  | wordEndHalf (unicode : Bool)
  deriving DecidableEq, Repr

/-- A pattern without flags. A captured part is known by the place where its group opens. -/
inductive Expr where
  | empty
  | char (c : CharClass)
  | look (l : Look)
  | seq (a b : Expr)
  | alt (a b : Expr)
  | repeated (least : Nat) (most : Option Nat) (eager : Bool) (body : Expr)
  | captured (place : Nat) (body : Expr)
  deriving DecidableEq, Repr

namespace Expr

/-! ## Sequences and alternatives -/

/-- How many constructors an expression has. -/
def size : Expr → Nat
  | seq a b => a.size + b.size + 1
  | alt a b => a.size + b.size + 1
  | repeated _ _ _ body => body.size + 1
  | captured _ body => body.size + 1
  | _ => 1

/-- The parts of a sequence. -/
def parts : Expr → List Expr
  | empty => []
  | seq a b => a.parts ++ b.parts
  | e => [e]

/-- The sequence of several parts. -/
def ofParts : List Expr → Expr
  | [] => empty
  | [e] => e
  | e :: rest => seq e (ofParts rest)

/-- The alternatives of a choice. -/
def branches : Expr → List Expr
  | alt a b => a.branches ++ b.branches
  | e => [e]

/-- The choice between several alternatives. -/
def ofBranches : List Expr → Expr
  | [] => char .empty
  | [e] => e
  | e :: rest => alt e (ofBranches rest)

/-- The longest list that both lists begin with. -/
def commonStart : List Expr → List Expr → List Expr
  | a :: as, b :: bs => if a = b then a :: commonStart as bs else []
  | _, _ => []

/-- The choice between several alternatives, where what all of them begin with is shared. `bound` limits
how often what follows is again a choice with a shared beginning. -/
def choice : Nat → List Expr → Expr
  | 0, es => ofBranches es
  | bound + 1, es =>
    match (es.flatMap branches).map parts with
    | [] => char .empty
    | [single] => ofParts single
    | first :: others =>
      let shared := others.foldl commonStart first
      if shared ≠ [] ∧ (first :: others).all (2 ≤ ·.length) then
        ofParts (shared ++ (choice bound ((first :: others).map fun p =>
          ofParts (p.drop shared.length))).parts)
      else ofBranches ((first :: others).map ofParts)

/-- Whether an expression may match without a character. -/
def mayBeEmpty : Expr → Bool
  | char _ => false
  | seq a b => a.mayBeEmpty && b.mayBeEmpty
  | alt a b => a.mayBeEmpty || b.mayBeEmpty
  | repeated least _ _ body => least == 0 || body.mayBeEmpty
  | captured _ body => body.mayBeEmpty
  | _ => true

/-- Whether some condition asks for words of Unicode. -/
def asksUnicodeWords : Expr → Bool
  | look (.wordBoundary u) | look (.notWordBoundary u) => u
  | look (.wordStart u) | look (.wordEnd u) => u
  | look (.wordStartHalf u) | look (.wordEndHalf u) => u
  | seq a b | alt a b => a.asksUnicodeWords || b.asksUnicodeWords
  | repeated _ _ _ body | captured _ body => body.asksUnicodeWords
  | _ => false

end Expr

/-- The flags that have a bearing on what a pattern matches. If greed is swapped, the repetitions that
are written as eager are the reluctant ones. -/
structure Flags where
  caseInsensitive : Bool := false
  multiLine : Bool := false
  dotMatchesNewLine : Bool := false
  swapGreed : Bool := false
  unicode : Bool := true
  carriageReturn : Bool := false
  deriving DecidableEq, Repr

/-- The flags after a change. -/
def Flags.apply (f : Flags) (change : FlagChange) : Flags where
  caseInsensitive := (change.state? .caseInsensitive).getD f.caseInsensitive
  multiLine := (change.state? .multiLine).getD f.multiLine
  dotMatchesNewLine := (change.state? .dotMatchesNewLine).getD f.dotMatchesNewLine
  swapGreed := (change.state? .swapGreed).getD f.swapGreed
  unicode := (change.state? .unicode).getD f.unicode
  carriageReturn := (change.state? .carriageReturn).getD f.carriageReturn

namespace Flags

/-- The class with the other cases of its members, if case is ignored. -/
def foldCase (f : Flags) (c : CharClass) : CharClass :=
  if f.caseInsensitive then (if f.unicode then .anyCase c else .anyAsciiCase c) else c

/-- The class with other cases if case is ignored, and then negated if asked for; in ASCII mode a
negated class is refused. -/
def close (f : Flags) (span : Span) (negated : Bool) (c : CharClass) : Except Fault CharClass :=
  if negated ∧ ¬ f.unicode then .error ⟨.invalidEncoding, span⟩
  else .ok ((f.foldCase c).negateIf negated)

/-- The class of a one-letter escape. -/
def shortClass (f : Flags) (span : Span) (kind : ShortClass) (negated : Bool) :
    Except Fault CharClass :=
  if negated ∧ ¬ f.unicode then .error ⟨.invalidEncoding, span⟩
  else .ok ((kind.charClass f.unicode).negateIf negated)

/-- The class of a named escape. -/
def namedClass (f : Flags) (span : Span) (name : ClassName) (negated : Bool) :
    Except Fault CharClass :=
  if ¬ f.unicode then .error ⟨.unicodeNotAllowed, span⟩
  else
    let found := match name with
      | .one n => lookup n
      | .valued p v _ => lookupValue p v
    match found with
    | .ok s => f.close span (negated != name.excludes) (.ranges s)
    | .error .unknownProperty => .error ⟨.propertyUnknown, span⟩
    | .error .unknownValue => .error ⟨.propertyValueUnknown, span⟩

/-- A literal outside brackets. In ASCII mode a byte above ASCII is no character. -/
def literal (f : Flags) (l : Literal) : Except Fault CharClass :=
  if ¬ f.unicode ∧ l.isByte ∧ l.char.toNat > 0x7F then .error ⟨.invalidEncoding, l.span⟩
  else if ¬ f.unicode ∧ l.char.toNat > 0x7F then .ok (.single l.char)
  else .ok (f.foldCase (.single l.char))

/-- The code point of a literal inside brackets. In ASCII mode it must be an ASCII character. -/
def classLiteral (f : Flags) (l : Literal) : Except Fault Nat :=
  if ¬ f.unicode ∧ l.char.toNat > 0x7F then
    .error ⟨if l.isByte then .invalidEncoding else .unicodeNotAllowed, l.span⟩
  else .ok l.char.toNat

mutual

/-- The class of what stands inside brackets. -/
def classOf (f : Flags) : ClassSet → Except Fault CharClass
  | .empty _ => .ok .empty
  | .literal l => do
    let n ← f.classLiteral l
    return .range n n
  | .range _ l r => do
    let first ← f.classLiteral l
    let last ← f.classLiteral r
    return .range first last
  | .ascii span kind negated => f.close span negated (.ranges ⟨kind.ranges⟩)
  | .short span kind negated => f.shortClass span kind negated
  | .named span name negated => f.namedClass span name negated
  | .bracketed span negated body => do f.close span negated (← f.classOf body)
  | .union _ items => f.classOfAll items
  | .operation _ op l r => do
    let a ← f.classOf l
    let b ← f.classOf r
    return .operate op (f.foldCase a) (f.foldCase b)

/-- The union of the classes of several items. -/
def classOfAll (f : Flags) : List ClassSet → Except Fault CharClass
  | [] => .ok .empty
  | c :: rest => do
    let a ← f.classOf c
    return .union a (← f.classOfAll rest)

end

/-- The characters that the dot matches. -/
def dot (f : Flags) (span : Span) : Except Fault CharClass :=
  if ¬ f.unicode then .error ⟨.invalidEncoding, span⟩
  else if f.dotMatchesNewLine then .ok (.complement .empty)
  else if f.carriageReturn then .ok (.complement (.ranges ⟨[(10, 10), (13, 13)]⟩))
  else .ok (.complement (.range 10 10))

/-- The condition that an assertion states. -/
def look (f : Flags) : Assertion → Look
  | .startLine => if f.multiLine then .lineStart f.carriageReturn else .textStart
  | .endLine => if f.multiLine then .lineEnd f.carriageReturn else .textEnd
  | .startText => .textStart
  | .endText => .textEnd
  | .wordBoundary => .wordBoundary f.unicode
  | .notWordBoundary => .notWordBoundary f.unicode
  | .wordStart => .wordStart f.unicode
  | .wordEnd => .wordEnd f.unicode
  | .wordStartHalf => .wordStartHalf f.unicode
  | .wordEndHalf => .wordEndHalf f.unicode

end Flags

mutual

/-- The meaning of a node under flags, and the flags after it. -/
def Node.expr (f : Flags) : Node → Except Fault (Expr × Flags)
  | .empty _ => .ok (.empty, f)
  | .flags _ change => .ok (.empty, f.apply change)
  | .literal l => do return (.char (← f.literal l), f)
  | .dot span => do return (.char (← f.dot span), f)
  | .assertion _ kind => .ok (.look (f.look kind), f)
  | .short span kind negated => do return (.char (← f.shortClass span kind negated), f)
  | .named span name negated => do return (.char (← f.namedClass span name negated), f)
  | .bracketed span negated body => do
    return (.char (← f.close span negated (← f.classOf body)), f)
  | .repetition _ least most eager body => do
    let (e, f) ← body.expr f
    return (.repeated least most (eager != f.swapGreed) e, f)
  | .group span captures change body => do
    let (e, _) ← body.expr (f.apply change)
    return (if captures then .captured span.start e else e, f)
  | .alternation _ branches => do
    let (es, f) ← Node.exprAll f branches
    return (.choice (es.foldl (fun n e => n + e.size) 0) es, f)
  | .concat _ parts => do
    let (es, f) ← Node.exprAll f parts
    return (.ofParts es, f)

/-- The meanings of several nodes, and the flags after the last one. -/
def Node.exprAll (f : Flags) : List Node → Except Fault (List Expr × Flags)
  | [] => .ok ([], f)
  | n :: rest => do
    let (e, f) ← n.expr f
    let (es, f) ← Node.exprAll f rest
    return (e :: es, f)

end

end Freshness.Pattern
