import Freshness.Pod
import Freshness.Verdict

/-!
# Series of a gauge

An entry of the store is the verdict on the image of one container of one pod. It is published as one
series of a gauge: eight labels, and a value that says whether the image is the latest. The gauge
tells series apart by a digest of 64 bits of their label values, written one after the other without
a separator. Label values with one digest share one series.
-/

namespace Freshness

namespace Store

/-- The place of an entry: one container of one pod. -/
structure Key where
  pod : PodId
  container : String
  deriving DecidableEq, Repr, Inhabited

/-- The verdict on the image of a container. -/
structure Entry where
  key : Key
  verdict : Verdict
  deriving DecidableEq, Repr, Inhabited

/-- The label values of a series. -/
structure Labels where
  namespaceName : String
  pod : String
  container : String
  image : String
  currentVersion : String
  latestVersion : String
  os : String
  architecture : String
  deriving DecidableEq, Repr, Inhabited

/-- One series of the gauge: its labels, and whether its value is one or zero. -/
structure Series where
  labels : Labels
  isLatest : Bool
  deriving DecidableEq, Repr, Inhabited

namespace Labels

/-- The label values in the order in which the gauge takes them. -/
def values (l : Labels) : List String :=
  [l.namespaceName, l.pod, l.container, l.image, l.currentVersion, l.latestVersion, l.os,
    l.architecture]

/-- The labels with their names, in the order of the names. -/
def named (l : Labels) : List (String × String) :=
  [("arch", l.architecture), ("container", l.container), ("current_version", l.currentVersion),
    ("image", l.image), ("latest_version", l.latestVersion), ("namespace", l.namespaceName),
    ("os", l.os), ("pod", l.pod)]

/-- The label values written one after the other, as octets. -/
def octets (l : Labels) : List UInt8 :=
  l.values.flatMap fun v => v.toList.flatMap String.utf8EncodeChar

/-- The digest of octets: each octet is added by exclusive or, and the sum is multiplied by a prime. -/
def digest (s : List UInt8) : UInt64 :=
  s.foldl (fun h b => (h ^^^ b.toUInt64) * 0x100000001b3) 0xcbf29ce484222325

/-- What the gauge tells series apart by. -/
def identity (l : Labels) : UInt64 := digest l.octets

theorem eq_of_values_eq {l m : Labels} (h : l.values = m.values) : l = m := by
  cases l; cases m
  simp only [values, List.cons.injEq] at h
  simp_all

end Labels

namespace Entry

/-- The labels under which an entry is published. -/
def labels (e : Entry) : Labels where
  namespaceName := e.key.pod.namespaceName
  pod := e.key.pod.name
  container := e.key.container
  image := e.verdict.image
  currentVersion := e.verdict.currentVersion
  latestVersion := e.verdict.latestVersion
  os := e.verdict.os
  architecture := e.verdict.architecture

/-- The series under which an entry is published when it has one of its own. -/
def series (e : Entry) : Series := ⟨e.labels, e.verdict.isLatest⟩

end Entry

end Store

end Freshness
