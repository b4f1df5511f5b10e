import Freshness.Pattern.Match

/-!
# The preferred match

Of all matches in a text one is preferred: none begins before it, and of those that begin where it
begins it is the one that the choices of the expression prefer. `Expr.preferredEnd?` finds its end.

An expression becomes an automaton, whose choices have an order. All ways through it are followed at
once, one character at a time; the list of the states they have reached is kept in the order of
preference, and of two ways that meet in a state only the preferred one goes on. When a way is done,
the less preferred ones are given up, and no new way begins.
-/

namespace Freshness.Pattern

/-- A state of an automaton: what has to come next before it goes on to another state. -/
inductive State where
  | char (c : CharClass) (next : Nat)
  | look (l : Look) (next : Nat)
  | choice (preferred other : Nat)
  | done
  deriving DecidableEq, Repr, Inhabited

/-- The states of an automaton, known by their numbers. -/
abbrev Automaton := Array State

namespace Automaton

/-! ## The automaton of an expression -/

/-- Add a state; the number of the new state is returned. -/
def add (s : State) : StateM Automaton Nat := do
  let a ← get
  set (a.push s)
  return a.size

/-- The choice between one more run of a body and leaving its repetition. -/
def again (eager : Bool) (body leave : Nat) : State :=
  if eager then .choice body leave else .choice leave body

/-- So many runs of a body before the state `next`. -/
def runs (body : Nat → StateM Automaton Nat) : Nat → Nat → StateM Automaton Nat
  | 0, next => return next
  | n + 1, next => do body (← runs body n next)

/-- Up to so many runs of a body; after each of them the repetition may be left for `next`. -/
def optionalRuns (body : Nat → StateM Automaton Nat) (eager : Bool) (next : Nat) :
    Nat → StateM Automaton Nat
  | 0 => return next
  | n + 1 => do add (again eager (← body (← optionalRuns body eager next n)) next)

/-- Any number of runs of a body: the choice between one more run and leaving, which comes after every
run, and the beginning of a run. -/
def loop (body : Nat → StateM Automaton Nat) (eager : Bool) (next : Nat) :
    StateM Automaton (Nat × Nat) := do
  let after ← add .done
  let start ← body after
  modify (·.setIfInBounds after (again eager start next))
  return (after, start)

/-- The repetition of a body before the state `next`. Where the body may run without a character, the
choice before the first run is a state of its own: the choice after a run must still be open when the
first run comes to it. -/
def repeated (body : Nat → StateM Automaton Nat) (mayBeEmpty : Bool) (least : Nat) (most : Option Nat)
    (eager : Bool) (next : Nat) : StateM Automaton Nat := do
  match most, least with
  | some most, _ => runs body least (← optionalRuns body eager next (most - least))
  | none, 0 =>
    let (after, start) ← loop body eager next
    if mayBeEmpty then add (again eager start next) else return after
  | none, n + 1 => runs body n (← loop body eager next).2

/-- Add the states of an expression that comes before the state `next`; the first one is returned. -/
def ofExpr : Expr → Nat → StateM Automaton Nat
  | .empty, next => return next
  | .char c, next => add (.char c next)
  | .look l, next => add (.look l next)
  | .seq a b, next => do ofExpr a (← ofExpr b next)
  | .alt a b, next => do
    let first ← ofExpr a next
    let second ← ofExpr b next
    add (.choice first second)
  | .repeated least most eager body, next =>
    repeated (ofExpr body) body.mayBeEmpty least most eager next
  | .captured _ body, next => ofExpr body next

/-! ## Following it -/

/-- The states that are reached from `waiting` without a character where the conditions in `holds` are
met, the preferred ones first. `reached` are those found so far, the last one first. Every state adds at
most two to those that wait. -/
def reach (a : Automaton) (holds : Look → Bool) : Nat → List Nat → List Nat → List Nat
  | 0, _, reached => reached.reverse
  | _, [], reached => reached.reverse
  | bound + 1, s :: waiting, reached =>
    if reached.contains s then reach a holds bound waiting reached
    else
      let next := match a[s]? with
        | some (.choice preferred other) => [preferred, other]
        | some (.look l next) => if holds l then [next] else []
        | _ => []
      reach a holds bound (next ++ waiting) (s :: reached)

/-- Whether a state is the end of a match. -/
def isDone (a : Automaton) (s : Nat) : Bool := a[s]? == some .done

/-- The state after a character, if a state waits for one like it. -/
def after? (a : Automaton) (c : Char) (s : Nat) : Option Nat :=
  match a[s]? with
  | some (.char wanted next) => if wanted.mem c then some next else none
  | _ => none

/-- The end of the preferred match from position `i` of a text on, where `waiting` are the states that
have been reached there and `found` is the end of the best match so far. `rest` is the text from `i` on. -/
def search (a : Automaton) (start : Nat) (text : Array Char) :
    List Char → Nat → List Nat → Option Nat → Option Nat
  | rest, i, waiting, found =>
    let waiting := if found.isNone then waiting ++ [start] else waiting
    let reached := reach a (·.holds text i) (waiting.length + 2 * a.size) waiting []
    let found := if reached.any a.isDone then some i else found
    match rest with
    | [] => found
    | c :: rest =>
      search a start text rest (i + 1) ((reached.takeWhile (!a.isDone ·)).filterMap (a.after? c)) found

end Automaton

/-- The end of the preferred match of an expression in a text. -/
def Expr.preferredEnd? (e : Expr) (text : List Char) : Option Nat :=
  let (start, a) := (Automaton.ofExpr e 0).run #[.done]
  a.search start text.toArray text 0 [] none

end Freshness.Pattern
