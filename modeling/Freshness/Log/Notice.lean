import Freshness.Failure
import Freshness.Log
import Freshness.Store

/-!
# What is logged

One definition for each record that the work on pods leaves in the log, and the two spans that records
are made in.
-/

namespace Freshness.Log

/-- The span of the work on a pod. -/
def podSpan (pod : PodId) : Span :=
  ⟨"reconcile_pod", [("namespace", pod.namespaceName), ("pod", pod.name)]⟩

/-- The span of the work on a container. -/
def containerSpan (container : String) : Span := ⟨"reconcile_container", [("container", container)]⟩

/-- The fields that say which container a record is about. -/
def placeFields (k : Store.Key) : List (String × FieldValue) :=
  [("namespace", .text k.pod.namespaceName), ("pod", .text k.pod.name),
    ("container", .text k.container)]

namespace Record

/-- A container is about to be checked. The image is shown in quotes. -/
def processing (image : Option String) : Record where
  level := .debug
  origin := .reconciler
  message := "Processing container image"
  fields :=
    [("image", .text (match image with
      | some i => "Some(" ++ Text.quoted i ++ ")"
      | none => "None"))]

/-- A check came to an end without a verdict. -/
def noVerdict : Record where
  level := .debug
  origin := .reconciler
  message := "No check result available yet"
  fields := []

/-- A check came to a verdict. The latest version is only told if another one runs. -/
def imageChecked (k : Store.Key) (v : Verdict) : Record where
  level := .debug
  origin := .observability
  message := if v.isLatest then "Image is latest" else "Image is not latest"
  fields :=
    ("event", .event "image_checked") :: placeFields k
      ++ [("image", .text v.image), ("current_version", .text v.currentVersion)]
      ++ if v.isLatest then [] else [("latest_version", .text v.latestVersion)]

/-- A check found no version. -/
def noVersionFound (k : Store.Key) (failure : CheckFailure) : Record where
  level := .error
  origin := .observability
  message := "No version found matching search criteria"
  fields :=
    ("event", .event "no_version_found") :: placeFields k ++ [("reason", .text failure.message)]

/-- A container is not checked. -/
def containerDisabled (k : Store.Key) : Record where
  level := .debug
  origin := .observability
  message := "Version checking disabled, removing image metrics"
  fields := ("event", .event "container_disabled") :: placeFields k

/-- Work on a pod failed. -/
def podFailed (f : PodFailure) : Record where
  level := .warn
  origin := .observability
  message := "Pod reconciliation failed"
  fields :=
    [("event", .event "pod_sync_failed"), ("namespace", .text f.pod.namespaceName),
      ("pod", .text f.pod.name), ("failed_containers", .count f.failures.length),
      ("retryable", .flag f.isRetryable), ("error", .text f.message)]

/-- The series of an entry was no longer there when it was to be taken back. -/
def seriesAbsent (e : Store.Entry) : Record where
  level := .debug
  origin := .store
  message := "Image series already absent"
  fields :=
    placeFields e.key
      ++ [("error", .text ("Error: missing label values ["
        ++ ", ".intercalate (e.labels.values.map Text.quoted) ++ "]"))]

end Record

end Freshness.Log
