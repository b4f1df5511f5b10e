import Freshness.Failure
import Mathlib.Data.List.Induction

/-!
# Chains of causes

A failure can have another one right behind it (`Cause.behind?`).  A failed container has its failed check behind it,
or what is wrong with its annotations; a message in contexts has the same message behind it without its outermost
context.  A failed check of another kind is seen through: it shows the message in contexts that it carries, and has
behind it what this message has behind it.  A failed pod has nothing behind it, since it shows all its failures itself.

Going on from each failure to the one behind it comes to an end (`Cause.chain`).  The messages on this way are what a
failure tells as its causes (`Cause.causes_eq_map_message_chain`).  For a message in contexts they are the contexts
from the outermost one in, and then the message (`Cause.message_cons_map_message_chain_wrapped`), so that no layer is
lost and none is told twice, though two kinds of failures stand in front of the layers (`causes_of_failures`).
-/

namespace Freshness

/-- A failure on the way from a failure to its last cause.  Contexts are put around a message one after the other, the
innermost first. -/
inductive Cause where
  | pod (f : PodFailure)
  | container (f : ContainerFailure)
  | annotations (issues : List Issue)
  | check (f : CheckFailure)
  | wrapped (message : String) (contexts : List String)
  deriving DecidableEq, Repr

/-- The contexts that a failed check carries. -/
def CheckFailure.contexts : CheckFailure → List String
  | other _ contexts => contexts
  | _ => []

namespace Cause

/-- The message of a failure.  A message in contexts shows its outermost context. -/
def message : Cause → String
  | pod f => f.message
  | container f => f.message
  | annotations issues => Issue.messageOfAll issues
  | check f => f.message
  | wrapped m contexts => contexts.getLast?.getD m

@[simp] lemma message_wrapped (m : String) (contexts : List String) :
    (wrapped m contexts).message = contexts.getLast?.getD m := rfl

/-- A message in contexts without its outermost context, if it has any. -/
def unwrap? (m : String) (contexts : List String) : Option Cause :=
  if contexts = [] then none else some (wrapped m contexts.dropLast)

/-- The failure right behind another one, if there is one. -/
def behind? : Cause → Option Cause
  | pod _ => none
  | container (.configuration _ issues) => some (annotations issues)
  | container (.check _ f) => some (check f)
  | annotations _ => none
  | check (.other m contexts) => unwrap? m contexts
  | check _ => none
  | wrapped m contexts => unwrap? m contexts

/-- What a failure tells as its causes. -/
def causes : Cause → List String
  | pod f => f.causes
  | container f => f.causes
  | annotations _ => []
  | check f => f.causes
  | wrapped m contexts => (CheckFailure.layers m contexts).tail

variable {m : String} {contexts : List String} {c d : Cause}

/-! ## The way to the last cause -/

lemma unwrap?_concat (m outer : String) (inner : List String) :
    unwrap? m (inner ++ [outer]) = some (wrapped m inner) := by
  unfold unwrap?
  rw [if_neg (List.append_ne_nil_of_right_ne_nil inner (List.cons_ne_nil outer [])), List.dropLast_concat]

/-- How many failures there can be behind a failure. -/
def depth : Cause → Nat
  | pod _ => 0
  | container (.configuration _ _) => 1
  | container (.check _ f) => f.contexts.length + 1
  | annotations _ => 0
  | check f => f.contexts.length
  | wrapped _ contexts => contexts.length

/-- Without its outermost context a message has fewer contexts. -/
lemma depth_lt_of_unwrap? (h : unwrap? m contexts = some d) : d.depth < contexts.length := by
  unfold unwrap? at h
  split_ifs at h with hnil
  obtain rfl := Option.some.inj h
  have hpos : 0 < contexts.length := List.length_pos_iff.2 hnil
  calc (wrapped m contexts.dropLast).depth = contexts.length - 1 := List.length_dropLast
    _ < contexts.length := Nat.sub_lt hpos Nat.one_pos

/-- There are fewer failures behind a failure than behind the one in front of it. -/
lemma depth_lt_of_behind? (h : c.behind? = some d) : d.depth < c.depth := by
  match c, h with
  | container (.configuration _ _), h =>
    obtain rfl := Option.some.inj h
    exact Nat.one_pos
  | container (.check _ f), h =>
    obtain rfl := Option.some.inj h
    exact Nat.lt_succ_self f.contexts.length
  | check (.other _ _), h => exact depth_lt_of_unwrap? h
  | wrapped _ _, h => exact depth_lt_of_unwrap? h

/-- The failures behind a failure, the nearest first. -/
def chain (c : Cause) : List Cause :=
  match _h : c.behind? with
  | none => []
  | some d => d :: d.chain
termination_by c.depth
decreasing_by exact depth_lt_of_behind? _h

/-- A failure with nothing behind it ends the way. -/
lemma chain_eq_nil (h : c.behind? = none) : c.chain = [] := by
  rw [chain]
  split
  · rfl
  · rename_i hsome
    cases h.symm.trans hsome

/-- The way goes on from the failure right behind. -/
lemma chain_eq_cons (h : c.behind? = some d) : c.chain = d :: d.chain := by
  rw [chain]
  split
  · rename_i hnone
    cases h.symm.trans hnone
  · rename_i hsome
    rw [Option.some.inj (h.symm.trans hsome)]

/-- Failures with the same failure right behind them have the same way before them. -/
lemma chain_congr {c' : Cause} (h : c.behind? = c'.behind?) : c.chain = c'.chain := by
  cases hbehind : c'.behind? with
  | none => rw [chain_eq_nil hbehind, chain_eq_nil (h.trans hbehind)]
  | some d => rw [chain_eq_cons hbehind, chain_eq_cons (h.trans hbehind)]

/-! ## The messages on the way -/

/-- The way through a message in contexts tells the contexts from the outermost one in, and then the message. -/
lemma message_cons_map_message_chain_wrapped (m : String) (contexts : List String) :
    (wrapped m contexts).message :: (wrapped m contexts).chain.map message = contexts.reverse ++ [m] := by
  induction contexts using List.reverseRecOn with
  | nil =>
    have hlast : (wrapped m []).chain = [] := chain_eq_nil rfl
    rw [hlast]
    rfl
  | append_singleton inner outer ih =>
    have hchain : (wrapped m (inner ++ [outer])).chain = wrapped m inner :: (wrapped m inner).chain :=
      chain_eq_cons (unwrap?_concat m outer inner)
    have hmessage : (wrapped m (inner ++ [outer])).message = outer := by
      rw [message_wrapped, List.getLast?_concat, Option.getD_some]
    rw [hchain, List.map_cons, ih, hmessage, List.reverse_concat, List.cons_append]

/-- A failure with nothing behind it has no messages on its way. -/
lemma map_message_chain_eq_nil (h : c.behind? = none) : c.chain.map message = [] := by
  rw [chain_eq_nil h, List.map_nil]

/-- A message in contexts tells the messages of the failures behind it. -/
lemma causes_wrapped (m : String) (contexts : List String) :
    (wrapped m contexts).causes = (wrapped m contexts).chain.map message :=
  congrArg List.tail (message_cons_map_message_chain_wrapped m contexts).symm

/-- A failed check tells the messages of the failures behind it. -/
lemma causes_check_eq (f : CheckFailure) : (check f).causes = (check f).chain.map message := by
  cases f with
  | other m contexts =>
    -- the check has the same failure behind it as the message in contexts that it carries
    have hthrough : (check (.other m contexts)).chain = (wrapped m contexts).chain := chain_congr rfl
    rw [hthrough]
    exact causes_wrapped m contexts
  | noVersionFound image => exact (map_message_chain_eq_nil rfl).symm
  | cancelled => exact (map_message_chain_eq_nil rfl).symm
  | deadlineExceeded deadline => exact (map_message_chain_eq_nil rfl).symm

/-- What a failure tells as its causes are the messages of the failures behind it. -/
theorem causes_eq_map_message_chain (c : Cause) : c.causes = c.chain.map message := by
  match c with
  | pod f => exact (map_message_chain_eq_nil rfl).symm
  | annotations issues => exact (map_message_chain_eq_nil rfl).symm
  | wrapped m contexts => exact causes_wrapped m contexts
  | check f => exact causes_check_eq f
  | container (.configuration name issues) =>
    have hchain : (container (.configuration name issues)).chain = annotations issues :: (annotations issues).chain :=
      chain_eq_cons rfl
    rw [hchain, List.map_cons, map_message_chain_eq_nil rfl]
    rfl
  | container (.check name f) =>
    have hchain : (container (.check name f)).chain = check f :: (check f).chain := chain_eq_cons rfl
    rw [hchain, List.map_cons, ← causes_check_eq]
    rfl

end Cause

/-- **Every layer once.**  A failed container whose check failed with a message in contexts shows the outermost
context, or the message if there are no contexts, and tells as its causes the contexts from the outermost one in and
then the message.  With any other failed check it tells the message of this check alone, and with annotations that
are wrong the message about these alone.  A failed pod tells no causes, and shows the messages of all its failures in
their order.  What any failure tells are the messages on the way from it to the last failure behind it. -/
theorem causes_of_failures (name : String) :
    (∀ (m : String) (contexts : List String),
      (ContainerFailure.check name (.other m contexts)).message =
        "failed to check container image " ++ Text.quoted name ++ ": " ++ contexts.getLast?.getD m ∧
      (ContainerFailure.check name (.other m contexts)).causes = contexts.reverse ++ [m]) ∧
    (∀ e : CheckFailure, (∀ m contexts, e ≠ .other m contexts) →
      (ContainerFailure.check name e).causes = [e.message]) ∧
    (∀ issues, (ContainerFailure.configuration name issues).causes = [Issue.messageOfAll issues]) ∧
    (∀ f : PodFailure, f.causes = [] ∧
      f.message = "failed to sync pod " ++ f.pod.namespaceName ++ "/" ++ f.pod.name ++ ": " ++
        ",".intercalate (f.failures.map (·.message))) ∧
    ∀ c : Cause, c.causes = c.chain.map Cause.message := by
  refine ⟨fun m contexts => ⟨rfl, ?_⟩, fun e he => ?_, fun issues => rfl, fun f => ⟨rfl, ?_⟩,
    Cause.causes_eq_map_message_chain⟩
  · rw [ContainerFailure.causes_check, CheckFailure.message_cons_causes_other]
    rfl
  · cases e with
    | other m contexts => exact absurd rfl (he m contexts)
    | noVersionFound image => rfl
    | cancelled => rfl
    | deadlineExceeded deadline => rfl
  · unfold PodFailure.message PodId.text
    rw [← String.append_assoc, ← String.append_assoc]

/-- A message in two contexts, and a check that took too long. -/
theorem causes_of_failures_wrapped :
    let f : ContainerFailure := .check "app" (.other "connection reset" ["read body", "fetch manifest"])
    let e : CheckFailure := .deadlineExceeded (.ofSeconds 5)
    (∀ m contexts, e ≠ .other m contexts) ∧
    f.message = "failed to check container image \"app\": fetch manifest" ∧
    f.causes = ["fetch manifest", "read body", "connection reset"] ∧
    (ContainerFailure.check "app" e).causes = ["version check exceeded deadline of 5s"] := by
  intro f e
  have he : ∀ m contexts, e ≠ .other m contexts := fun m contexts heq => nomatch heq
  obtain ⟨hlayers, halone, -⟩ := causes_of_failures "app"
  obtain ⟨hmessage, hcauses⟩ := hlayers "connection reset" ["read body", "fetch manifest"]
  have hquoted : Text.quoted "app" = "\"app\"" := by decide +kernel
  have htext : e.message = "version check exceeded deadline of 5s" := by decide +kernel
  refine ⟨he, ?_, hcauses, ?_⟩
  · rw [hmessage, hquoted]
    rfl
  · rw [halone e he, htext]

end Freshness
