import Freshness.Log
import Freshness.Text.Quoted

/-!
# Lines of the log

A record is written as one text: its level, the spans around it with their fields, the part of the
program that it comes from, its message and its fields. The text is shown line by line.
-/

namespace Freshness.Log

namespace FieldValue

/-- The value of a field as a line shows it. The word for an event is quoted. -/
def shown : FieldValue → String
  | event word => Text.quoted word
  | text s => s
  | count n => toString n
  | flag b => if b then "true" else "false"

end FieldValue

namespace Span

/-- A span as a line shows it. -/
def shown (s : Span) : String :=
  s.name ++ "\x7b" ++ " ".intercalate (s.fields.map fun (k, v) => k ++ "=" ++ v) ++ "\x7d"

end Span

namespace Record

/-- The text of a record within spans, from the outermost one in. -/
def text (spans : List Span) (r : Record) : String :=
  let around := String.join (spans.map fun s => s.shown ++ ":")
  r.level.text ++ " " ++ around ++ (if spans.isEmpty then "" else " ") ++ r.origin.target ++ ": "
    ++ " ".intercalate (r.message :: r.fields.map fun (k, v) => k ++ "=" ++ v.shown)

/-- A line without a carriage return at its end. -/
def dropReturn (s : String) : String :=
  match s.toList.reverse with
  | '\r' :: rest => String.ofList rest.reverse
  | _ => s

/-- The lines of a record within spans. -/
def lines (spans : List Span) (r : Record) : List String :=
  let parts := (text spans r).splitOn "\n"
  parts.map dropReturn

end Record

end Freshness.Log
