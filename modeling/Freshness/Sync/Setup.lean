import Freshness.Checker
import Freshness.Policy
import Freshness.Resolver
import Freshness.Store

/-!
# Setting up the work on pods

Work on pods needs a checker, a store, a way to get a resolver from the annotations of a pod, and three
limits. A setup is put together by calls in any order; of calls for one thing the last one holds.
-/

namespace Freshness.Sync

/-- Whether containers are checked by default, how long a check may take, and how many containers are
worked on at a time. -/
structure Limits where
  checkByDefault : Bool
  deadline : Option Duration
  concurrency : Nat
  deriving DecidableEq, Repr

/-- The limits that a policy sets. -/
def Limits.ofPolicy (p : Policy) : Limits := ⟨p.checkByDefault, p.deadline, p.concurrency⟩

/-- What the work on pods needs. -/
structure Setup where
  checker : Checker
  store : Store
  resolver : Annotations → Resolver
  limits : Limits

/-- The setup for a policy. -/
def Setup.ofPolicy (checker : Checker) (store : Store) (resolver : Annotations → Resolver)
    (p : Policy) : Setup :=
  ⟨checker, store, resolver, .ofPolicy p⟩

/-! ## Putting a setup together -/

/-- One call that sets something up. -/
inductive Call where
  | checker (c : Checker)
  | store (s : Store)
  | resolver (r : Annotations → Resolver)
  | policy (p : Policy)
  | checkByDefault (b : Bool)
  | deadline (d : Duration)
  | maxConcurrent (n : UInt64)

/-- What calls have set up so far. A deadline of its own is not part of the policy. -/
structure Draft where
  checker : Option Checker := none
  store : Option Store := none
  resolver : Annotations → Resolver := .ofAnnotations Pattern.compiler
  policy : Policy := {}
  deadline : Option Duration := none

/-- What is missing for a setup. -/
inductive Missing where
  | checker
  | store
  deriving DecidableEq, Repr

/-- The message about what is missing. -/
def Missing.message : Missing → String
  | checker => "Version checker is required"
  | store => "Metrics store is required"

namespace Draft

/-- The draft after one more call. -/
def apply (d : Draft) : Call → Draft
  | .checker c => { d with checker := some c }
  | .store s => { d with store := some s }
  | .resolver r => { d with resolver := r }
  | .policy p => { d with policy := p }
  | .checkByDefault b => { d with policy := { d.policy with checkByDefault := b } }
  | .deadline t => { d with deadline := some t }
  | .maxConcurrent n => { d with policy := { d.policy with maxConcurrent := n } }

/-- The draft that calls make. -/
def ofCalls (calls : List Call) : Draft := calls.foldl apply {}

/-- The limits of a draft. A deadline of its own stands before the one of the policy. -/
def limits (d : Draft) : Limits :=
  let l := Limits.ofPolicy d.policy
  { l with deadline := d.deadline.or l.deadline }

/-- The setup that a draft makes, or what is missing. -/
def build (d : Draft) : Except Missing Setup :=
  match d.checker, d.store with
  | none, _ => .error .checker
  | some _, none => .error .store
  | some c, some s => .ok ⟨c, s, d.resolver, d.limits⟩

end Draft

/-- The setup that calls make, or what is missing. -/
def Setup.ofCalls (calls : List Call) : Except Missing Setup := (Draft.ofCalls calls).build

end Freshness.Sync
