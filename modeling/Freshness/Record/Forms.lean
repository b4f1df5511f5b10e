import Freshness.Policy
import Freshness.Record
import Freshness.Store.Series

/-!
# The records of the program

How policies, verdicts and entries of the store are written in documents.
-/

namespace Freshness

/-- A policy as a record. Every part may be absent. -/
def Policy.form : RecordForm Policy where
  name := "SyncConfig"
  blank := {}
  fields :=
    [{ Field.of Policy.Item.checkByDefault.name Value.asBool fun p b => { p with checkByDefault := b } with
        mayBeAbsent := true },
      { Field.of Policy.Item.timeoutSeconds.name (Value.asOptional (Value.asWord "u64"))
          fun p n => { p with timeoutSeconds := n } with
        mayBeAbsent := true },
      { Field.of Policy.Item.maxConcurrent.name (Value.asWord "usize")
          fun p n => { p with maxConcurrent := n } with
        mayBeAbsent := true }]

/-- A verdict as a record. -/
def Verdict.form : RecordForm Verdict where
  name := "CheckResult"
  blank := default
  fields :=
    [.of "image_url" Value.asText fun v s => { v with image := s },
      .of "current_version" Value.asText fun v s => { v with currentVersion := s },
      .of "latest_version" Value.asText fun v s => { v with latestVersion := s },
      .of "is_latest" Value.asBool fun v b => { v with isLatest := b },
      .of "os" Value.asText fun v s => { v with os := s },
      .of "architecture" Value.asText fun v s => { v with architecture := s }]

namespace Store.Entry

/-- The entry with another place. -/
def mapKey (e : Entry) (f : Key → Key) : Entry := { e with key := f e.key }

/-- The entry with another verdict. -/
def mapVerdict (e : Entry) (f : Verdict → Verdict) : Entry := { e with verdict := f e.verdict }

/-- An entry as a record. -/
def form : RecordForm Entry where
  name := "MetricsEntry"
  blank := default
  fields :=
    [.of "namespace" Value.asText fun e s =>
        e.mapKey fun k => { k with pod := { k.pod with namespaceName := s } },
      .of "pod" Value.asText fun e s => e.mapKey fun k => { k with pod := { k.pod with name := s } },
      .of "container" Value.asText fun e s => e.mapKey fun k => { k with container := s },
      .of "image_url" Value.asText fun e s => e.mapVerdict fun v => { v with image := s },
      .of "is_latest" Value.asBool fun e b => e.mapVerdict fun v => { v with isLatest := b },
      .of "current_version" Value.asText fun e s => e.mapVerdict fun v => { v with currentVersion := s },
      .of "latest_version" Value.asText fun e s => e.mapVerdict fun v => { v with latestVersion := s },
      .of "os" Value.asText fun e s => e.mapVerdict fun v => { v with os := s },
      .of "arch" Value.asText fun e s => e.mapVerdict fun v => { v with architecture := s }]

end Store.Entry

end Freshness
