import Freshness.Store.Exposition

/-!
# Reading an exposition

The text that shows series can be read again. A line that begins with a number sign is about the gauge;
every other line is a sample: the name of a gauge, labels in braces with quoted values, and a number. A
quoted value ends at the first quote that does not follow a backslash of its own.
`readValue_escaped` says that an escaped value reads back as itself, whatever follows it.
-/

namespace Freshness.Store.Exposition

/-- A sample line: the name of the gauge, the labels in their order, and the number. -/
structure Sample where
  name : String
  labels : List (String × String)
  value : String
  deriving DecidableEq, Repr

/-- The text up to the closing quote, and what follows the quote. -/
def readValue : List Char → Option (List Char × List Char)
  | '"' :: rest => some ([], rest)
  | '\\' :: '\\' :: rest => (readValue rest).map fun (s, rest) => ('\\' :: s, rest)
  | '\\' :: 'n' :: rest => (readValue rest).map fun (s, rest) => ('\n' :: s, rest)
  | '\\' :: '"' :: rest => (readValue rest).map fun (s, rest) => ('"' :: s, rest)
  | '\\' :: _ => none
  | c :: rest => (readValue rest).map fun (s, rest) => (c :: s, rest)
  | [] => none

/-- Whether a character may stand in a name. -/
def isNameChar (c : Char) : Bool := c.isAlphanum || c == '_'

/-- The labels up to the closing brace, and what follows the brace. A text of `n` characters has at most
`n` labels. -/
def readLabels : Nat → List Char → Option (List (String × String) × List Char)
  | 0, _ => none
  | n + 1, s =>
    match s.dropWhile isNameChar with
    | '=' :: '"' :: rest =>
      (readValue rest).bind fun (value, rest) =>
        let label := (String.ofList (s.takeWhile isNameChar), String.ofList value)
        match rest with
        | ',' :: rest => (readLabels n rest).map fun (labels, rest) => (label :: labels, rest)
        | '\x7d' :: rest => some ([label], rest)
        | _ => none
    | _ => none

/-- The sample of a line. -/
def readSample (line : List Char) : Option Sample :=
  match line.dropWhile isNameChar with
  | '\x7b' :: rest =>
    (readLabels line.length rest).bind fun (labels, rest) =>
      match rest with
      | ' ' :: value =>
        some ⟨String.ofList (line.takeWhile isNameChar), labels, String.ofList value⟩
      | _ => none
  | _ => none

/-- The lines of a text, each ended by a line break. -/
def linesOf : List Char → List (List Char)
  | [] => []
  | c :: rest =>
    if c = '\n' then [] :: linesOf rest
    else match linesOf rest with
      | [] => [[c]]
      | line :: lines => (c :: line) :: lines

/-- The samples of a text, if every line that is not about a gauge is one. -/
def readSamples (text : String) : Option (List Sample) :=
  ((linesOf text.toList).filter fun line => line.head? != some '#').mapM readSample

/-- The sample that shows a series. -/
def sampleOf (s : Series) : Sample := ⟨gaugeName, s.labels.named, if s.isLatest then "1" else "0"⟩

theorem readValue_escaped (s rest : List Char) :
    readValue (escaped s ++ '"' :: rest) = some (s, rest) := by
  induction s with
  | nil => simp [escaped, readValue]
  | cons c s ih =>
    simp only [escaped, List.flatMap_cons, List.append_assoc] at ih ⊢
    by_cases h1 : c = '\\'
    · subst h1; simp [escapedChar, readValue, ih]
    · by_cases h2 : c = '\n'
      · subst h2; simp [escapedChar, readValue, ih]
      · by_cases h3 : c = '"'
        · subst h3; simp [escapedChar, readValue, ih]
        · simp only [escapedChar, h1, h2, h3, if_false, List.singleton_append]
          rw [readValue.eq_def]
          split <;> simp_all

/-- No line break is left in an escaped text. -/
theorem newline_not_mem_escaped (s : List Char) : '\n' ∉ escaped s := by
  simp only [escaped, List.mem_flatMap, not_exists, not_and]
  intro c _
  unfold escapedChar
  split
  · decide
  · split
    · decide
    · split
      · decide
      · rename_i h _
        simpa [eq_comm] using h

end Freshness.Store.Exposition
