import Freshness.Number.Reading

/-!
# Paths to settings

A setting is written at a path: a name, and steps from there into a table, after a dot, or to an item
of a list, in square brackets. Reading a path gives its name and its steps, or the reason why the text
is no path.
-/

namespace Freshness.Policy

/-- A step of a path: to a name in a table, or to an item of a list. -/
inductive Step where
  | child (name : String)
  | item (index : Int)
  deriving DecidableEq, Repr

/-- A path to a setting. -/
structure Path where
  name : String
  steps : List Step
  deriving DecidableEq, Repr

/-- Why a text is no path: it does not begin with a name, a step does not begin or end as steps do, or
there are no digits between square brackets, or too many. -/
inductive PathFault where
  | noName
  | noStep
  | noDigits
  | indexTooLarge
  deriving DecidableEq, Repr

/-- The message of a fault in a path: what was expected where the path cannot be read. -/
def PathFault.message : PathFault → String
  | noName => "IsA"
  | noStep => "Char"
  | noDigits => "Digit"
  | indexTooLarge => "Map on Result"

namespace Path

/-- Whether a character may stand in a name of a path. -/
def isNameChar (c : Char) : Bool := c.isAlphanum || c == ' ' || c == '_' || c == '-'

/-- Whether a character may stand around the number between square brackets. -/
def isPadding (c : Char) : Bool := c == ' ' || c == '\t'

/-- The signed number at the start of a text, with blanks around it, and the rest of the text. -/
def readIndex (s : List Char) : Except PathFault (Int × List Char) :=
  let (sign, s) := match s.dropWhile isPadding with
    | '-' :: rest => (['-'], rest)
    | s => ([], s)
  let digits := s.takeWhile Char.isDigit
  if digits.isEmpty then .error .noDigits
  else match Text.readSignedWord? (sign ++ digits) with
    | some index => .ok (index, (s.dropWhile Char.isDigit).dropWhile isPadding)
    | none => .error .indexTooLarge

/-- The step at the start of a text, and the rest of the text. -/
def readStep : List Char → Except PathFault (Step × List Char)
  | '.' :: rest =>
    if (rest.takeWhile isNameChar).isEmpty then .error .noStep
    else .ok (.child (String.ofList (rest.takeWhile isNameChar)), rest.dropWhile isNameChar)
  | '[' :: rest => do
    match ← readIndex rest with
    | (index, ']' :: rest) => .ok (.item index, rest)
    | _ => .error .noStep
  | _ => .error .noStep

/-- The steps that a text is, at most as many as `bound`. A step has at least two characters, so that a
text has fewer steps than characters. -/
def readSteps : Nat → List Char → Except PathFault (List Step)
  | _, [] => .ok []
  | 0, _ => .error .noStep
  | bound + 1, s => do
    let (step, rest) ← readStep s
    return step :: (← readSteps bound rest)

/-- The path that a text is. -/
def read (text : String) : Except PathFault Path :=
  let name := text.toList.takeWhile isNameChar
  let rest := text.toList.dropWhile isNameChar
  if name.isEmpty then .error .noName
  else (readSteps rest.length rest).map fun steps => ⟨String.ofList name, steps⟩

/-- A text without steps is the path of its name. -/
theorem read_of_all_isNameChar {text : String} (h : text.toList.all isNameChar)
    (hne : text.toList ≠ []) : read text = .ok ⟨text, []⟩ := by
  have key (s : List Char) (hs : s.all isNameChar) :
      s.takeWhile isNameChar = s ∧ s.dropWhile isNameChar = [] := by
    induction s with
    | nil => simp
    | cons c rest ih => simp_all
  simp [read, (key _ h).1, (key _ h).2, hne, readSteps, Except.map]

end Path

end Freshness.Policy
