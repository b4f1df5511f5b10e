import Freshness.Log
import Freshness.Number.Reading
import Freshness.Pattern
import Freshness.Text.Blank
import Freshness.Unicode.Class

/-!
# Directives for the log

A directive says up to which level records are let through, and for what: for the parts of the program
whose names begin with a target, for the time inside a span of a name, or where there are fields of
some names, perhaps with values of some form. A text holds directives between commas.
-/

namespace Freshness.Log

/-- How much is let through: nothing at zero, everything at five. -/
abbrev Threshold := Nat

namespace Threshold

/-- Nothing is let through. -/
def off : Threshold := 0

/-- Everything is let through. -/
def all : Threshold := Level.trace.verbosity

/-- The threshold that a word or a number names. Upper and lower case are the same. -/
def read? (s : List Char) : Option Threshold :=
  match (Text.readWord? s).map (·.toNat) with
  | some n => if n ≤ all then some n else none
  | none =>
    match String.ofList (s.map Char.toLower) with
    | "off" => some off
    | "error" => some Level.error.verbosity
    | "warn" => some Level.warn.verbosity
    | "info" => some Level.info.verbosity
    | "debug" => some Level.debug.verbosity
    | "trace" => some Level.trace.verbosity
    | _ => none

end Threshold

/-- The form of the value of a field: a truth value or a number, which no text is, or a pattern. -/
inductive ValueForm where
  | constant
  | pattern (p : Pattern)
  deriving Repr

/-- What a directive asks of a field: its name, and perhaps the form of its value. -/
structure FieldTest where
  name : String
  form : Option ValueForm
  text : String
  deriving Repr

namespace FieldTest

/-- The form that a text describes. A pattern that asks for words of Unicode is no form: to follow it
one character at a time does not tell where words end. -/
def readForm? (s : List Char) : Option ValueForm :=
  let word := String.ofList s
  if word = "true" ∨ word = "false" ∨ (Text.readWord? s).isSome ∨ (Text.readSignedWord? s).isSome
      ∨ (Text.readBinary64? s).isSome then
    some .constant
  else ((Pattern.compile word).toOption.filter (!·.expr.asksUnicodeWords)).map .pattern

/-- The test that a text describes: a name, and the form of the value after an equals sign. What follows
a second equals sign is left out. -/
def read? (s : List Char) : Option FieldTest :=
  let name := String.ofList (s.takeWhile (· != '='))
  if s.isEmpty then none
  else
    match s.dropWhile (· != '=') with
    | [] => some ⟨name, none, String.ofList s⟩
    | _ :: rest =>
      let value := rest.takeWhile (· != '=')
      (readForm? value).map fun form =>
        ⟨name, some form, String.ofList (name.toList ++ ['='] ++ value)⟩

/-- Whether the field of a span passes the test. -/
def passes (t : FieldTest) (fields : List (String × String)) : Bool :=
  match t.form with
  | none => fields.any (·.1 == t.name)
  | some .constant => false
  | some (.pattern p) => fields.any fun f => f.1 == t.name && p.matchesToEnd f.2

end FieldTest

/-- What is let through, and for what. -/
structure Directive where
  threshold : Threshold := Threshold.all
  target : Option String := none
  span : Option String := none
  fields : List FieldTest := []
  deriving Repr

namespace Directive

/-! ## Reading directives -/

/-- Which part of a directive is being read, and where the part began. -/
inductive Stage where
  | beginning
  | thresholdOrTarget (start : Nat)
  | span (start : Nat)
  | field (start : Nat)
  | fields
  | target
  | threshold (start : Nat)
  deriving DecidableEq, Repr

/-- The characters of a text from one position to another. -/
def slice (s : List Char) (start stop : Nat) : List Char := (s.drop start).take (stop - start)

/-- A text that is the name of a span, if it is not empty. -/
def nameOf? (s : List Char) : Option String := if s.isEmpty then none else some (String.ofList s)

/-- The directive with one more test of a field. -/
def addField (d : Directive) (s : List Char) : Option Directive :=
  (FieldTest.read? s).map fun t => { d with fields := d.fields ++ [t] }

/-- The stage and the directive after the character at a position of a text. -/
def advance (whole : List Char) : Stage × Directive → Char × Nat → Option (Stage × Directive)
  | (.beginning, d), (c, i) =>
    if c = '[' then some (.span (i + 1), d)
    else if ['-', ':', '_'].contains c || Unicode.alphabetic.mem c || Unicode.numeric.mem c then
      some (.thresholdOrTarget i, d)
    else none
  | (.thresholdOrTarget start, d), (c, i) =>
    if c = '=' then
      some (.threshold (i + 1), { d with target := some (String.ofList (slice whole start i)) })
    else if c = '[' then
      some (.span (i + 1), { d with target := some (String.ofList (slice whole start i)) })
    else some (.thresholdOrTarget start, d)
  | (.span start, d), (c, i) =>
    if c = ']' then some (.target, { d with span := some (String.ofList (slice whole start i)) })
    else if c = '\x7b' then
      some (.field (i + 1), { d with span := nameOf? (slice whole start i) })
    else some (.span start, d)
  | (.field start, d), (c, i) =>
    if c = '\x7d' then (d.addField (slice whole start i)).map fun d => (.fields, d)
    else some (.field start, d)
  | (.fields, d), (c, _) => if c = ']' then some (.target, d) else none
  | (.target, d), (c, i) => if c = '=' then some (.threshold (i + 1), d) else none
  | (.threshold start, d), _ => some (.threshold start, d)

/-- The directive at the end of a text: what was read last may be a threshold or a target. -/
def finish (whole : List Char) : Stage × Directive → Option Directive
  | (.thresholdOrTarget start, d) =>
    let s := whole.drop start
    match Threshold.read? s with
    | some t => some { d with threshold := t, target := none }
    | none => some { d with target := nameOf? s }
  | (.threshold start, d) =>
    let s := whole.drop start
    if s.isEmpty then some d else (Threshold.read? s).map fun t => { d with threshold := t }
  | (.target, d) => some d
  | _ => none

/-- The directive that a text is. -/
def read? (s : String) : Option Directive :=
  let whole := s.toList
  ((Text.trim whole).zipIdx.foldlM (advance whole) (.beginning, {})).bind (finish whole)

/-- The directives of a text, if all of them can be read. Empty directives are left out. -/
def readAll? (s : String) : Option (List Directive) :=
  ((s.splitOn ",").filter (!·.isEmpty)).mapM read?

/-! ## What a directive is about -/

/-- Whether the directive depends on the spans that a record is made in. -/
def isDynamic (d : Directive) : Bool := d.span.isSome || !d.fields.isEmpty

/-- Whether the directive can be applied to a record alone. -/
def isStatic (d : Directive) : Bool := d.span.isNone && d.fields.all (·.form.isNone)

/-- Whether two directives are about the same, perhaps with different thresholds. -/
def isAboutSame (d e : Directive) : Bool :=
  d.target == e.target && d.span == e.span && d.fields.map (·.text) == e.fields.map (·.text)

/-- Whether a directive's target covers a part of the program. -/
def covers (d : Directive) (target : String) : Bool :=
  d.target.all fun t => t.toList.isPrefixOf target.toList

end Directive

end Freshness.Log
