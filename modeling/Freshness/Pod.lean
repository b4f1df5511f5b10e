import Freshness.Annotation

/-!
# Pods

A pod has a name in a namespace, annotations, and containers. A `PodId` says which pod is meant: a pod
that names no namespace lives in the namespace `default`, and one without a name has the empty name.
-/

namespace Freshness

/-- A container of a pod: its name, and the image that it runs. -/
structure Container where
  name : String
  image : Option String := none
  deriving DecidableEq, Repr, Inhabited

/-- A pod, as far as it matters here. -/
structure Pod where
  namespaceName : Option String := none
  name : Option String := none
  annotations : Annotations := .empty
  containers : List Container := []
  deriving DecidableEq, Repr, Inhabited

/-- Which pod is meant: its name within a namespace. -/
structure PodId where
  namespaceName : String
  name : String
  deriving DecidableEq, Repr, Inhabited

namespace PodId

/-- The namespace of a pod that names none. -/
def defaultNamespace : String := "default"

/-- The text of the identity of a pod. -/
def text (p : PodId) : String := p.namespaceName ++ "/" ++ p.name

end PodId

/-- The identity of a pod. -/
def Pod.id (p : Pod) : PodId :=
  ⟨p.namespaceName.getD PodId.defaultNamespace, p.name.getD ""⟩

end Freshness
