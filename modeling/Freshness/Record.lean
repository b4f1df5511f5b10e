import Freshness.Value

/-!
# Records in documents

A record is written in a document as a table of its fields, or as the list of their values in the order
in which the fields are declared. Every field takes values of one kind only. A table may hold names
that are no fields, and its fields are read in the order of their names; then every field that is
absent must be one that may be absent.
-/

namespace Freshness

/-- Why a document holds no record. -/
inductive ReadFault where
  | missingField (name : String)
  | wrongKind (found : Value) (wanted : String)
  | outOfRange (n : Int) (wanted : String)
  | tooFewItems (length : Nat) (record : String) (size : Nat)
  | tooManyItems (length : Nat)
  deriving Repr, Inhabited

/-- The message of a fault. -/
def ReadFault.message : ReadFault → String
  | missingField name => "missing field `" ++ name ++ "`"
  | wrongKind found wanted => "invalid type: " ++ found.shown ++ ", expected " ++ wanted
  | outOfRange n wanted => "invalid value: integer `" ++ toString n ++ "`, expected " ++ wanted
  | tooFewItems length record size =>
    "invalid length " ++ toString length ++ ", expected struct " ++ record ++ " with "
      ++ toString size ++ " elements"
  | tooManyItems length =>
    "invalid length " ++ toString length ++ ", expected fewer elements in array"

namespace Value

/-- The text that a value is. -/
def asText : Value → Except ReadFault String
  | text s => .ok s
  | v => .error (.wrongKind v "a string")

/-- The truth value that a value is. -/
def asBool : Value → Except ReadFault Bool
  | bool b => .ok b
  | v => .error (.wrongKind v "a boolean")

/-- The unsigned number of 64 bits that a value is, where `wanted` is the name of its kind. -/
def asWord (wanted : String) : Value → Except ReadFault UInt64
  | integer n =>
    if 0 ≤ n ∧ n < UInt64.size then .ok (UInt64.ofNat n.toNat) else .error (.outOfRange n wanted)
  | v => .error (.wrongKind v wanted)

/-- What a value is read as, or nothing if there is no value. -/
def asOptional {α : Type} (read : Value → Except ReadFault α) : Value → Except ReadFault (Option α)
  | null => .ok none
  | v => (read v).map some

end Value

/-- A field of a record: its name, how its value is put into a record, and whether it may be absent. -/
structure Field (ρ : Type) where
  name : String
  read : ρ → Value → Except ReadFault ρ
  mayBeAbsent : Bool := false

/-- A field whose value is read by itself. -/
def Field.of {ρ α : Type} (name : String) (read : Value → Except ReadFault α) (put : ρ → α → ρ) :
    Field ρ where
  name := name
  read r v := (read v).map (put r)

/-- How a record is written: its name, its fields, and the record to begin with. -/
structure RecordForm (ρ : Type) where
  name : String
  fields : List (Field ρ)
  blank : ρ

namespace RecordForm

variable {ρ : Type} (form : RecordForm ρ)

/-- The record of a list of values for the fields. -/
def readItems : List (Field ρ) → List Value → ρ → Except ReadFault ρ
  | [], _, r => .ok r
  | f :: fs, [], r =>
    if f.mayBeAbsent then readItems fs [] r
    else .error (.tooFewItems (form.fields.length - (fs.length + 1)) form.name form.fields.length)
  | f :: fs, v :: vs, r => (f.read r v).bind (readItems fs vs)

/-- The record after the value of a name is read. -/
def readEntry (r : ρ) (entry : String × Value) : Except ReadFault ρ :=
  match form.fields.find? (·.name == entry.1) with
  | some f => f.read r entry.2
  | none => .ok r

/-- The first field that is absent from a table and may not be. -/
def missing? (entries : List (String × Value)) : Option (Field ρ) :=
  form.fields.find? fun f => !f.mayBeAbsent && !entries.any (·.1 == f.name)

/-- The record that a document holds. -/
def read : Value → Except ReadFault ρ
  | .table fields =>
    let entries := Value.inOrder fields
    (entries.foldlM form.readEntry form.blank).bind fun r =>
      match form.missing? entries with
      | some f => .error (.missingField f.name)
      | none => .ok r
  | .list items =>
    (form.readItems form.fields items form.blank).bind fun r =>
      if items.length > form.fields.length then .error (.tooManyItems items.length) else .ok r
  | v => .error (.wrongKind v ("struct " ++ form.name))

end RecordForm

end Freshness
