import Freshness.Pattern.Automaton

/-!
# Patterns

A `Pattern` is a regular expression that was read successfully: its text, and the expression that
the text means. `Pattern.compile` reads a text; `Pattern.isMatch` asks whether the pattern matches
anywhere in a text, and `Pattern.matchesToEnd` whether the match that is preferred reaches to its end.

`Pattern.compile` refuses no text for the size of its pattern, such as `a{100000000}`, which a compiler
with a limit on that size does. So whoever makes patterns of texts is given a `Pattern.Compiler`, about
which nothing is known but that its patterns keep their texts; `Pattern.compiler` is the one without a
limit.
-/

namespace Freshness

/-- A regular expression: the text that it was read from, and its meaning. -/
structure Pattern where
  text : String
  expr : Pattern.Expr
  deriving Repr

namespace Pattern

/-- The pattern of a text, or the fault of the text. -/
def compile (text : String) : Except Fault Pattern := do
  let node ← parse text
  let (expr, _) ← node.expr {}
  return ⟨text, expr⟩

/-- Whether the pattern matches some part of a text. -/
def isMatch (p : Pattern) (s : String) : Bool := p.expr.matchesSomewhere s.toList

/-- Whether the preferred match in a text reaches to the end of the text. -/
def matchesToEnd (p : Pattern) (s : String) : Bool :=
  p.expr.preferredEnd? s.toList == some s.toList.length

/-- The message of the fault of a text that is no pattern. -/
def faultMessage? (text : String) : Option String :=
  match compile text with
  | .ok _ => none
  | .error f => some (f.report text)

/-- A compiled pattern keeps its text. -/
theorem text_of_compile {text : String} {p : Pattern} (h : compile text = .ok p) :
    p.text = text := by
  simp only [compile, bind, Except.bind] at h
  split at h
  · simp at h
  · split at h
    · simp at h
    · simp only [pure, Except.pure, Except.ok.injEq] at h
      rw [← h]

/-! ## Compilers -/

/-- Why a compiler refuses a text: the text has a fault, or it exceeds a limit of the compiler, which has a
message for it. -/
inductive Refusal where
  | fault (f : Fault)
  | limit (message : String)
  deriving DecidableEq, Repr

/-- The message of the refusal of a text. -/
def Refusal.report (text : String) : Refusal → String
  | fault f => f.report text
  | limit message => message

/-- A way to make patterns of texts. A pattern keeps the text that it is made of. -/
structure Compiler where
  run : String → Except Refusal Pattern
  text_of_run : ∀ {text : String} {p : Pattern}, run text = .ok p → p.text = text

/-- The compiler that refuses the texts with a fault and no others. -/
def compiler : Compiler where
  run text :=
    match compile text with
    | .ok p => .ok p
    | .error f => .error (.fault f)
  text_of_run {text} {p} h := by
    split at h
    next q hcompile => exact Except.ok.inj h ▸ text_of_compile hcompile
    next => exact nomatch h

end Pattern

end Freshness
