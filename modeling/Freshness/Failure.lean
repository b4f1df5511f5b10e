import Freshness.Duration
import Freshness.Options.Issue
import Freshness.Pod

/-!
# Failures

A check can fail, a container can fail because of its annotations or its check, and a pod fails if a
container of it does. Each failure has a message and the messages of the causes behind it, the nearest
first.
-/

namespace Freshness

/-- Why a check failed. A failure of another kind carries the contexts that were put around its
message, the innermost first. -/
inductive CheckFailure where
  | noVersionFound (image : String)
  | cancelled
  | deadlineExceeded (deadline : Duration)
  | other (message : String) (contexts : List String)
  deriving DecidableEq, Repr

namespace CheckFailure

/-- The texts of a failure of another kind: the contexts from the outermost one in, then the message. -/
def layers (message : String) (contexts : List String) : List String :=
  contexts.reverse ++ [message]

/-- The message of a failed check. -/
def message : CheckFailure → String
  | noVersionFound image =>
    "no version found matching search criteria for image " ++ Text.quoted image
  | cancelled => "version check cancelled"
  | deadlineExceeded d => "version check exceeded deadline of " ++ d.text
  | other m contexts => contexts.getLast?.getD m

/-- The messages of the causes behind a failed check. -/
def causes : CheckFailure → List String
  | other m contexts => (layers m contexts).tail
  | _ => []

/-- The message of a failure of another kind is that of its outermost context. -/
@[simp] theorem message_other (m : String) (contexts : List String) :
    (other m contexts).message = contexts.getLast?.getD m := rfl

/-- The message and the messages of the causes of a failure of another kind are its layers: none is lost
and none is repeated. -/
theorem message_cons_causes_other (m : String) (contexts : List String) :
    (other m contexts).message :: (other m contexts).causes = layers m contexts := by
  rcases contexts.eq_nil_or_concat with rfl | ⟨inner, outer, rfl⟩
  · rfl
  · rw [message_other, causes, layers]
    simp

/-- Whether no version was found. -/
def isNoVersionFound : CheckFailure → Bool
  | noVersionFound _ => true
  | _ => false

/-- Whether the check was given up before its end. -/
def isCancelled : CheckFailure → Bool
  | cancelled => true
  | deadlineExceeded _ => true
  | _ => false

end CheckFailure

/-- Why a container failed: its annotations are wrong, or its check failed. -/
inductive ContainerFailure where
  | configuration (container : String) (issues : List Issue)
  | check (container : String) (failure : CheckFailure)
  deriving DecidableEq, Repr

namespace ContainerFailure

/-- The name of the container that failed. -/
def container : ContainerFailure → String
  | configuration c _ => c
  | check c _ => c

/-- The message of a failed container. -/
def message : ContainerFailure → String
  | configuration c issues =>
    "failed to build options from annotations for " ++ Text.quoted c ++ ": "
      ++ Issue.messageOfAll issues
  | check c failure =>
    "failed to check container image " ++ Text.quoted c ++ ": " ++ failure.message

/-- The messages of the causes behind a failed container. -/
def causes : ContainerFailure → List String
  | configuration _ issues => [Issue.messageOfAll issues]
  | check _ failure => failure.message :: failure.causes

@[simp] theorem causes_check (c : String) (failure : CheckFailure) :
    (check c failure).causes = failure.message :: failure.causes := rfl

/-- Whether trying again may help: wrong annotations stay wrong. -/
def isRetryable : ContainerFailure → Bool
  | configuration _ _ => false
  | check _ _ => true

end ContainerFailure

/-- The failure of a pod: the failures of its containers, in the order of the containers. -/
structure PodFailure where
  pod : PodId
  failures : List ContainerFailure
  deriving DecidableEq, Repr

namespace PodFailure

/-- The message of a failed pod. -/
def message (f : PodFailure) : String :=
  "failed to sync pod " ++ f.pod.text ++ ": " ++ ",".intercalate (f.failures.map (·.message))

/-- The messages of the causes behind a failed pod. It has as many as containers failed, so that none
of them is singled out: its message tells all of them. -/
def causes (_ : PodFailure) : List String := []

/-- Whether trying again may help with some container. -/
def isRetryable (f : PodFailure) : Bool := f.failures.any (·.isRetryable)

/-- The names of the containers that failed. -/
def failedContainers (f : PodFailure) : List String := f.failures.map (·.container)

/-- The failure of a pod with failed containers; none without them. -/
def ofFailures? (pod : PodId) (failures : List ContainerFailure) : Option PodFailure :=
  if failures.isEmpty then none else some ⟨pod, failures⟩

end PodFailure

end Freshness
