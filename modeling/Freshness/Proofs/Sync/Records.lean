import Freshness.Proofs.Sync.Aggregate
import Freshness.Proofs.Sync.History
import Freshness.Proofs.Sync.Notices
import Freshness.Proofs.Sync.Place

/-!
# What the log tells of the work on a pod

The spans of a record say which container it is about, and the record says what came of it.  Both can be
trusted: a record at the position of a container stands in the span of the pod and of this container, whatever
turns of other containers come in between, and so does what the store logs (`spans_sync`); nothing stands at no
position but the record about the failed pod (`logged_sync`); and what is logged at a position is what belongs
to the ending to which the container there has come (`filterMap_eventsAt_report`), so that records of each kind
are as many as endings of that kind, and the pod is reported as failed exactly if the result is a failure
(`records_sync`).
-/

namespace Freshness.Log.Record

/-- The word of the event that a record is about, if it names one. -/
def word? (r : Record) : Option String :=
  match r.fields.lookup "event" with
  | some (.event word) => some word
  | _ => none

/-- A record is plain if it is there for debugging only and names no event. -/
structure IsPlain (r : Record) : Prop where
  level : r.level = .debug
  word : r.word? = none

/-- A record whose fields begin with an event names its word. -/
lemma word?_of_fields {r : Record} {word : String} {rest : List (String × FieldValue)}
    (h : r.fields = ("event", .event word) :: rest) : r.word? = some word := by
  unfold word?
  rw [h, List.lookup_cons_self]

/-- A record none of whose fields is an event names no word. -/
lemma word?_eq_none {r : Record} (h : ∀ field ∈ r.fields, field.1 ≠ "event") : r.word? = none := by
  have hlookup : r.fields.lookup "event" = none :=
    List.lookup_eq_none_iff.2 fun field hfield => bne_iff_ne.2 (h field hfield).symm
  unfold word?
  rw [hlookup]

/-- The record that opens a check is plain. -/
lemma isPlain_processing (image : Option String) : (processing image).IsPlain :=
  ⟨rfl, word?_eq_none (by simp [processing])⟩

/-- The record of the store is plain. -/
lemma isPlain_seriesAbsent (e : Store.Entry) : (seriesAbsent e).IsPlain :=
  ⟨rfl, word?_eq_none (by simp [seriesAbsent, placeFields])⟩

end Freshness.Log.Record

namespace Freshness.Sync

/-- The record that an event is. -/
def Event.record? : Event → Option Log.Record
  | logged r => some r
  | _ => none

/-- The records in a trace, in their order. -/
def recordsIn (trace : List Moment) : List Log.Record := trace.filterMap (·.event.record?)

/-- The records about the container at a position, in their order. -/
def recordsAt (trace : List Moment) (i : Nat) : List Log.Record := (eventsAt trace i).filterMap (·.record?)

/-- The ending to which the container at a position has come, if it has. -/
def Context.endingAt? (ctx : Context) (c : Container) (trace : List Moment) (i : Nat) : Option Ending :=
  ((eventsAt trace i).filterMap (ctx.endingBy? c)).head?

namespace Context

variable {α : Type} {ctx : Context} {c : Container} {es : List Event} {f : Event → Option α}

/-! ## What belongs to an ending -/

/-- A container whose check is under way has come to no ending. -/
lemma Account.filterMap_endingBy?_of_waiting {check : Check} (h : ctx.Account c es (.waiting check)) :
    es.filterMap (ctx.endingBy? c) = [] := by
  cases h with
  | checking _ hoptions hpre =>
    rw [List.filterMap_append, filterMap_endingBy?_opening hoptions, filterMap_endingBy?_of_isAside hpre]
    rfl

/-- What is read from a container is what is read from the ending to which it has come, if nothing is read
from anything else. -/
lemma Account.filterMap_eq {p : Progress} (h : ctx.Account c es p)
    (hquestion : ∀ ev : Event, ev.isQuestion = true → f ev = none)
    (hopening : (ctx.opening c).filterMap f = []) (haside : ∀ ev : Event, ev.isAside = true → f ev = none)
    (hanswer : ∀ a, f (.checkEnded a) = none) :
    es.filterMap f = match (es.filterMap (ctx.endingBy? c)).head? with
      | some e => (ctx.endingEvents c e).filterMap f
      | none => [] := by
  cases p with
  | waiting check =>
    rw [h.filterMap_endingBy?_of_waiting]
    cases h with
    | checking _ _ hpre =>
      rw [List.filterMap_append, hopening, filterMap_of_isAside haside hpre]
      rfl
  | ended time e =>
    rw [h.filterMap_endingBy?]
    exact h.filterMap_of_ended hquestion hopening haside hanswer

variable {setup : Setup} {earlier : String → Nat} {t : Task} {i : Nat}

/-- What is read at the position of a container in a report is what is read from the ending to which the
container has come, if nothing is read from anything else. -/
lemma filterMap_eventsAt_report (hc : t.pod.containers[i]? = some c)
    (hquestion : ∀ ev : Event, ev.isQuestion = true → f ev = none)
    (hopening : ((setup.context t.pod).opening c).filterMap f = [])
    (haside : ∀ ev : Event, ev.isAside = true → f ev = none) (hanswer : ∀ a, f (.checkEnded a) = none) :
    (eventsAt (setup.report earlier t).trace i).filterMap f =
      match (setup.context t.pod).endingAt? c (setup.report earlier t).trace i with
      | some e => ((setup.context t.pod).endingEvents c e).filterMap f
      | none => [] := by
  unfold endingAt?
  rcases told_or_eventsAt_eq_nil setup earlier t hc with hnil | ⟨slot, rfl, htold⟩
  · rw [hnil]
    rfl
  · have haccount := htold.account
    rw [← eventsAt_report t.pod.id, ← report_eq] at haccount
    exact haccount.filterMap_eq hquestion hopening haside hanswer

/-- The records that belong to an ending. -/
def recordsOf (ctx : Context) (c : Container) (e : Ending) : List Log.Record :=
  (ctx.endingEvents c e).filterMap (·.record?)

/-- The records of some kind at the position of a container in a report are those of its ending, if no plain
record is of this kind. -/
lemma filter_recordsAt_report (hc : t.pod.containers[i]? = some c) {p : Log.Record → Bool}
    (hplain : ∀ r : Log.Record, r.IsPlain → p r = false) :
    (recordsAt (setup.report earlier t).trace i).filter p =
      match (setup.context t.pod).endingAt? c (setup.report earlier t).trace i with
      | some e => ((setup.context t.pod).recordsOf c e).filter p
      | none => [] := by
  have hkind : ∀ l : List Event, (l.filterMap (·.record?)).filter p =
      l.filterMap fun ev => ev.record?.filter p := fun l => List.filter_filterMap ..
  unfold recordsAt recordsOf
  simp only [hkind]
  refine filterMap_eventsAt_report hc (fun ev hquestion => ?_) ?_ (fun ev haside => ?_) fun _ => rfl
  · cases ev <;> simp_all [Event.isQuestion, Event.record?]
  · simp [opening, Event.record?, hplain _ (Log.Record.isPlain_processing c.image)]
  · cases ev <;> simp_all [Event.isAside, Event.record?]

/-- A container has no answer and is disabled or has wrong annotations, if it has come to an ending at all; or
it has one answer, which makes its ending. -/
lemma Account.cases_answer {p : Progress} (h : ctx.Account c es p) :
    es.filterMap (·.answer?) = [] ∧
      (∀ e ∈ (es.filterMap (ctx.endingBy? c)).head?,
        e = .disabled ∨ ∃ issues, e = .failed (.configuration c.name issues)) ∨
    ∃ a, es.filterMap (·.answer?) = [a] ∧ (es.filterMap (ctx.endingBy? c)).head? = some (endingOf c a) := by
  cases p with
  | waiting check =>
    left
    rw [h.filterMap_endingBy?_of_waiting]
    exact ⟨h.filterMap_answer?_of_waiting, fun e he => absurd he (Option.not_mem_none e)⟩
  | ended time e =>
    rw [h.filterMap_endingBy?]
    cases h with
    | disabled _ =>
      have hnone : (ctx.endingEvents c .disabled).filterMap (·.answer?) = [] :=
        filterMap_answer?_endingEvents c _
      refine .inl ⟨hnone, fun e he => .inl ?_⟩
      exact (Option.some.inj he).symm
    | @misconfigured _ issues _ _ =>
      have hnone : (ctx.endingEvents c (.failed (.configuration c.name issues))).filterMap (·.answer?) = [] :=
        filterMap_answer?_endingEvents c _
      refine .inl ⟨hnone, fun e he => .inr ⟨issues, ?_⟩⟩
      exact (Option.some.inj he).symm
    | checked _ _ hpre => exact .inr ⟨_, filterMap_answer?_checked hpre, rfl⟩

/-- The ending that an answer makes is a recorded verdict exactly if the answer holds this verdict. -/
lemma endingOf_eq_recorded_iff {a : Answer} {v : Verdict} : endingOf c a = .recorded v ↔ a = .found v := by
  cases a with
  | pending => simp [endingOf]
  | found w => simp [endingOf]
  | failed f => cases f <;> simp [endingOf, CheckFailure.isNoVersionFound]

/-- The ending that an answer makes is that no version was found exactly if the answer says so. -/
lemma endingOf_eq_noVersionFound_iff {a : Answer} {f : CheckFailure} :
    endingOf c a = .noVersionFound f ↔ f.isNoVersionFound = true ∧ a = .failed f := by
  cases a with
  | pending => simp [endingOf]
  | found w => simp [endingOf]
  | failed f' =>
    cases hfound : f'.isNoVersionFound with
    | false =>
      simp only [endingOf, hfound, Bool.false_eq_true, if_false, reduceCtorEq, Answer.failed.injEq, false_iff,
        not_and]
      rintro hf rfl
      rw [hfound] at hf
      cases hf
    | true =>
      simp only [endingOf, hfound, if_true, Ending.noVersionFound.injEq, Answer.failed.injEq]
      constructor
      · rintro rfl
        exact ⟨hfound, rfl⟩
      · rintro ⟨-, rfl⟩
        rfl

/-- No failure of a container is that no version was found. -/
lemma Account.failure?_ne_noVersionFound {time : Nat} {e : Ending} (h : ctx.Account c es (.ended time e))
    (name image : String) : e.failure? ≠ some (.check name (.noVersionFound image)) := by
  cases h with
  | disabled _ => exact fun hf => by cases hf
  | misconfigured _ _ => exact fun hf => by cases hf
  | @checked _ _ _ a _ _ _ =>
    cases a with
    | pending => exact fun hf => by cases hf
    | found v => exact fun hf => by cases hf
    | failed f => cases f <;> simp [endingOf, CheckFailure.isNoVersionFound, Ending.failure?]

/-! ## Kinds of records -/

/-- An ending is an error in the log exactly if no version was found. -/
lemma filter_error_recordsOf (c : Container) (e : Ending) :
    (ctx.recordsOf c e).filter (fun r => r.level == .error || r.word? == some "no_version_found") =
      match e with
      | .noVersionFound f => [.noVersionFound (ctx.key c) f]
      | _ => [] := by
  cases e <;> simp [recordsOf, endingEvents, Event.record?, Log.Record.word?, Log.Record.imageChecked,
    Log.Record.noVerdict, Log.Record.noVersionFound, Log.Record.containerDisabled]

/-- An ending is logged as a checked image exactly if it is recorded. -/
lemma filter_imageChecked_recordsOf (c : Container) (e : Ending) :
    (ctx.recordsOf c e).filter (·.word? == some "image_checked") =
      match e with
      | .recorded v => [.imageChecked (ctx.key c) v]
      | _ => [] := by
  cases e <;> simp [recordsOf, endingEvents, Event.record?, Log.Record.word?, Log.Record.imageChecked,
    Log.Record.noVerdict, Log.Record.noVersionFound, Log.Record.containerDisabled]

/-- An ending is logged as a disabled container exactly if it is one. -/
lemma filter_containerDisabled_recordsOf (c : Container) (e : Ending) :
    (ctx.recordsOf c e).filter (·.word? == some "container_disabled") =
      match e with
      | .disabled => [.containerDisabled (ctx.key c)]
      | _ => [] := by
  cases e <;> simp [recordsOf, endingEvents, Event.record?, Log.Record.word?, Log.Record.imageChecked,
    Log.Record.noVerdict, Log.Record.noVersionFound, Log.Record.containerDisabled]

/-- An ending of a container is no warning. -/
lemma filter_warning_recordsOf (c : Container) (e : Ending) :
    (ctx.recordsOf c e).filter (fun r => r.level == .warn || r.word? == some "pod_sync_failed") = [] := by
  cases e <;> simp [recordsOf, endingEvents, Event.record?, Log.Record.word?, Log.Record.imageChecked,
    Log.Record.noVerdict, Log.Record.noVersionFound, Log.Record.containerDisabled]

/-! ## Spans -/

/-- A record in a report is about the container at its position, or it is the one about the failed pod, in the
span of the pod only. -/
lemma logged_report {m : Moment} {record : Log.Record} (hm : m ∈ (setup.report earlier t).trace)
    (hlogged : m.event = .logged record) :
    (∃ i c, m.position = some i ∧ t.pod.containers[i]? = some c) ∨
    m.position = none ∧ m.spans = [Log.podSpan t.pod.id] ∧ ∃ f, record = .podFailed f := by
  rcases mem_trace_report hm with hcourse | ⟨es, -, ev, hev, rfl⟩
  · left
    rcases inPlace_steps earlier t _ m hcourse with ⟨-, he | he⟩ | ⟨i, c, hi, hc, -⟩
    · rw [hlogged] at he
      cases he
    · rw [hlogged] at he
      cases he
    · exact ⟨i, c, hi, hc⟩
  · right
    rcases List.mem_cons.1 hev with rfl | hlog
    · cases hlogged
    · obtain ⟨f, -, rfl⟩ := List.mem_map.1 hlog
      obtain rfl := Event.logged.inj hlogged
      exact ⟨rfl, rfl, f, rfl⟩

/-- A change in a report is made for the container at its position. -/
lemma changed_report {m : Moment} {change : Store.Change} (hm : m ∈ (setup.report earlier t).trace)
    (hchanged : m.event = .changed change) : ∃ i c, m.position = some i ∧ t.pod.containers[i]? = some c := by
  rcases inPlace_report setup earlier t m hm with (⟨-, he | he⟩ | ⟨i, c, hi, hc, -⟩) | ⟨-, hnote⟩
  · rw [hchanged] at he
    cases he
  · rw [hchanged] at he
    cases he
  · exact ⟨i, c, hi, hc⟩
  · rw [hchanged] at hnote
    cases hnote

/-! ## Warnings -/

/-- In the course of the work on a pod nothing is a warning. -/
lemma filter_warning_course :
    (recordsIn (setup.final earlier t).trace).filter
      (fun r => r.level == .warn || r.word? == some "pod_sync_failed") = [] := by
  refine List.filter_eq_nil_iff.2 fun record hrecord hwarning => ?_
  obtain ⟨m, hm, hlogged⟩ := List.mem_filterMap.1 hrecord
  rcases inPlace_steps earlier t _ m hm with ⟨-, he | he⟩ | ⟨i, c, hi, hc, -⟩
  · rw [he] at hlogged
    cases hlogged
  · rw [he] at hlogged
    cases hlogged
  · -- the record would be one of the ending of its container
    have hreport : m ∈ (setup.report earlier t).trace := List.mem_append_left _ hm
    have hthere : record ∈ (recordsAt (setup.report earlier t).trace i).filter
        (fun r => r.level == .warn || r.word? == some "pod_sync_failed") :=
      List.mem_filter.2 ⟨List.mem_filterMap.2 ⟨_, mem_eventsAt hreport hi, hlogged⟩, hwarning⟩
    rw [filter_recordsAt_report hc fun r hr => by simp [hr.level, hr.word]] at hthere
    cases hending : (setup.context t.pod).endingAt? c (setup.report earlier t).trace i with
    | none =>
      rw [hending] at hthere
      cases hthere
    | some e =>
      simp only [hending, filter_warning_recordsOf] at hthere
      cases hthere

/-- The warnings in a report are one about the failed pod, if it failed, and none otherwise. -/
lemma filter_warning_report (setup : Setup) (earlier : String → Nat) (t : Task) :
    (recordsIn (setup.report earlier t).trace).filter
        (fun r => r.level == .warn || r.word? == some "pod_sync_failed") =
      (setup.report earlier t).failure?.toList.map .podFailed := by
  have hfailure : (setup.report earlier t).failure? = (setup.report earlier t).endings.bind fun es =>
      PodFailure.ofFailures? t.pod.id (Report.failuresOf es) := rfl
  rw [hfailure]
  cases hes : (setup.report earlier t).endings with
  | none =>
    rw [trace_report_of_endings_eq_none hes]
    exact filter_warning_course
  | some es =>
    have hsplit : recordsIn (setup.report earlier t).trace = recordsIn (setup.final earlier t).trace ++
        recordsIn ((closing t.pod.id (setup.final earlier t).now es).map
          fun ev => ⟨(setup.final earlier t).now, none, [Log.podSpan t.pod.id], ev⟩) := by
      rw [trace_report_of_endings hes]
      exact List.filterMap_append ..
    rw [hsplit, List.filter_append, filter_warning_course]
    cases hf : PodFailure.ofFailures? t.pod.id (Report.failuresOf es) with
    | none => simp [closing, hf, recordsIn, Event.record?]
    | some f => simp [closing, hf, recordsIn, Event.record?, Log.Record.podFailed]

/-- No failure in a result is that no version was found. -/
lemma ne_noVersionFound_of_mem_failuresOf {endings : List Ending} {x : ContainerFailure}
    (hes : (setup.report earlier t).endings = some endings) (hx : x ∈ Report.failuresOf endings)
    (name image : String) : x ≠ .check name (.noVersionFound image) := by
  obtain ⟨e, hmem, hfailure⟩ := List.mem_filterMap.1 hx
  obtain ⟨i, he⟩ := List.mem_iff_getElem?.1 hmem
  obtain ⟨hlength, hconcluded⟩ := concluded_of_endings_eq_some hes
  have hi : i < t.pod.containers.length := hlength ▸ (List.getElem?_eq_some_iff.1 he).1
  obtain ⟨begun, time, hstory⟩ := hconcluded i _ e (List.getElem?_eq_getElem hi) he
  rintro rfl
  exact hstory.account.failure?_ne_noVersionFound name image hfailure

/-- The ending that a report tells of a container is the one to which it has come. -/
lemma getElem?_eq_endingAt? {endings : List Ending}
    (hes : (setup.report earlier t).endings = some endings) (hc : t.pod.containers[i]? = some c) :
    endings[i]? = (setup.context t.pod).endingAt? c (setup.report earlier t).trace i := by
  obtain ⟨hlength, hconcluded⟩ := concluded_of_endings_eq_some hes
  obtain ⟨e, he⟩ := exists_ending_of_length hlength hc
  obtain ⟨begun, time, hstory⟩ := hconcluded i c e hc he
  have hending : (eventsAt (setup.report earlier t).trace i).filterMap
      ((setup.context t.pod).endingBy? c) = [e] := hstory.account.filterMap_endingBy?
  rw [endingAt?, hending, he]
  rfl

/-- What a container has come to agrees with the answers of its check. -/
lemma cases_answersAt (hc : t.pod.containers[i]? = some c) :
    answersAt (setup.report earlier t).trace i = [] ∧
      (∀ e ∈ (setup.context t.pod).endingAt? c (setup.report earlier t).trace i,
        e = .disabled ∨ ∃ issues, e = .failed (.configuration c.name issues)) ∨
    ∃ a, answersAt (setup.report earlier t).trace i = [a] ∧
      (setup.context t.pod).endingAt? c (setup.report earlier t).trace i = some (endingOf c a) := by
  unfold answersAt endingAt?
  rcases told_or_eventsAt_eq_nil setup earlier t hc with hnil | ⟨slot, rfl, htold⟩
  · rw [hnil]
    exact .inl ⟨rfl, fun e he => absurd he (Option.not_mem_none e)⟩
  · have haccount := htold.account
    rw [← eventsAt_report t.pod.id, ← report_eq] at haccount
    exact haccount.cases_answer

end Context

/-! ## Results -/

/-- The result is a failure exactly if the pod has one. -/
lemma toList_failure?_eq_of_result? (r : Report) :
    r.failure?.toList = match r.result? with
      | some (.error f) => [f]
      | _ => [] := by
  unfold Report.result? Report.failure?
  cases r.endings with
  | none => rfl
  | some es =>
    rw [Option.bind_some, Option.map_some]
    cases PodFailure.ofFailures? r.pod (Report.failuresOf es) <;> rfl

/-- The failure in a result is that of the pod, with the failures among its endings. -/
lemma exists_endings_of_result?_eq_error {r : Report} {f : PodFailure} (h : r.result? = some (.error f)) :
    ∃ es, r.endings = some es ∧ f = ⟨r.pod, Report.failuresOf es⟩ := by
  have hlist := toList_failure?_eq_of_result? r
  rw [h] at hlist
  have hfailure : r.failure? = some f := Option.toList_eq_singleton_iff.1 hlist
  obtain ⟨es, hes, hpod⟩ := Option.bind_eq_some_iff.1 hfailure
  refine ⟨es, hes, ?_⟩
  obtain ⟨-, hf⟩ := (Option.ite_none_left_eq_some).1 hpod
  exact (Option.some.inj hf).symm

/-! ## Through the store -/

namespace Session

variable {s : Session} {setup : Setup} {t : Task} {i : Nat} {c : Container}

/-- The records of some kind in a trace are the same after it has gone through the store, if no plain record is of
this kind. -/
lemma filter_recordsIn_sync {p : Log.Record → Bool} (hplain : ∀ r : Log.Record, r.IsPlain → p r = false)
    (s : Session) (setup : Setup) (t : Task) :
    (recordsIn (s.sync setup t).2.trace).filter p =
      (recordsIn (s.report ⟨setup, t⟩).trace).filter p := by
  unfold recordsIn
  rw [List.filter_filterMap, List.filter_filterMap]
  refine filterMap_throughStore (fun time position spans e => ?_) s.store (s.report ⟨setup, t⟩).trace
  simp [Event.record?, hplain _ (Log.Record.isPlain_seriesAbsent e)]

/-- The records of some kind about a container are the same after the trace has gone through the store, if no
plain record is of this kind. -/
lemma filter_recordsAt_sync {p : Log.Record → Bool} (hplain : ∀ r : Log.Record, r.IsPlain → p r = false)
    (s : Session) (setup : Setup) (t : Task) (i : Nat) :
    (recordsAt (s.sync setup t).2.trace i).filter p =
      (recordsAt (s.report ⟨setup, t⟩).trace i).filter p := by
  unfold recordsAt
  rw [List.filter_filterMap, List.filter_filterMap]
  refine filterMap_eventsAt_throughStore (fun e => ?_) s.store (s.report ⟨setup, t⟩).trace i
  simp [Event.record?, hplain _ (Log.Record.isPlain_seriesAbsent e)]

/-- The store brings no container to an ending. -/
lemma endingAt?_sync (s : Session) (setup : Setup) (t : Task) (ctx : Context) (c : Container) (i : Nat) :
    ctx.endingAt? c (s.sync setup t).2.trace i = ctx.endingAt? c (s.report ⟨setup, t⟩).trace i :=
  congrArg List.head?
    (filterMap_eventsAt_throughStore (fun _ => rfl) s.store (s.report ⟨setup, t⟩).trace i)

/-- The records of some kind about a container are those of its ending, if no plain record is of this kind. -/
lemma filter_recordsAt_sync_eq (hc : t.pod.containers[i]? = some c) {p : Log.Record → Bool}
    (hplain : ∀ r : Log.Record, r.IsPlain → p r = false) :
    (recordsAt (s.sync setup t).2.trace i).filter p =
      match (setup.context t.pod).endingAt? c (s.sync setup t).2.trace i with
      | some e => ((setup.context t.pod).recordsOf c e).filter p
      | none => [] := by
  rw [filter_recordsAt_sync hplain, endingAt?_sync]
  exact Context.filter_recordsAt_report hc hplain

/-- A container has come to an ending that only a check can have exactly if its check has one answer, and this
answer makes the ending. -/
lemma endingAt?_sync_eq_some_iff (hc : t.pod.containers[i]? = some c) {e : Ending} (hdisabled : e ≠ .disabled)
    (hconfiguration : ∀ issues, e ≠ .failed (.configuration c.name issues)) :
    (setup.context t.pod).endingAt? c (s.sync setup t).2.trace i = some e ↔
      ∃ a, answersAt (s.sync setup t).2.trace i = [a] ∧ Context.endingOf c a = e := by
  have hanswers : answersAt (s.sync setup t).2.trace i = answersAt (s.report ⟨setup, t⟩).trace i :=
    filterMap_eventsAt_throughStore (fun _ => rfl) s.store (s.report ⟨setup, t⟩).trace i
  have hcases : answersAt (s.report ⟨setup, t⟩).trace i = [] ∧
      (∀ e ∈ (setup.context t.pod).endingAt? c (s.report ⟨setup, t⟩).trace i,
        e = .disabled ∨ ∃ issues, e = .failed (.configuration c.name issues)) ∨
      ∃ a, answersAt (s.report ⟨setup, t⟩).trace i = [a] ∧
        (setup.context t.pod).endingAt? c (s.report ⟨setup, t⟩).trace i =
          some (Context.endingOf c a) := Context.cases_answersAt hc
  rw [hanswers, endingAt?_sync]
  rcases hcases with ⟨hnil, hunchecked⟩ | ⟨a, ha, hmade⟩
  · rw [hnil]
    constructor
    · intro he
      rcases hunchecked e he with rfl | ⟨issues, rfl⟩
      · exact absurd rfl hdisabled
      · exact absurd rfl (hconfiguration issues)
    · rintro ⟨a, hone, -⟩
      cases hone
  · rw [ha, hmade, Option.some.injEq]
    constructor
    · intro he
      exact ⟨a, rfl, he⟩
    · rintro ⟨a', hone, he⟩
      rw [List.singleton_inj] at hone
      rw [hone, he]

/-- A container comes to an ending without a version exactly if its check has one answer, which says so. -/
lemma endingAt?_sync_eq_noVersionFound_iff (hc : t.pod.containers[i]? = some c) (f : CheckFailure) :
    (setup.context t.pod).endingAt? c (s.sync setup t).2.trace i = some (.noVersionFound f) ↔
      f.isNoVersionFound = true ∧ answersAt (s.sync setup t).2.trace i = [.failed f] := by
  rw [endingAt?_sync_eq_some_iff hc (by simp) (by simp)]
  simp only [Context.endingOf_eq_noVersionFound_iff]
  constructor
  · rintro ⟨a, ha, hfound, rfl⟩
    exact ⟨hfound, ha⟩
  · rintro ⟨hfound, ha⟩
    exact ⟨_, ha, hfound, rfl⟩

/-- A container comes to be recorded with a verdict exactly if its check has one answer, which holds it. -/
lemma endingAt?_sync_eq_recorded_iff (hc : t.pod.containers[i]? = some c) (v : Verdict) :
    (setup.context t.pod).endingAt? c (s.sync setup t).2.trace i = some (.recorded v) ↔
      answersAt (s.sync setup t).2.trace i = [.found v] := by
  rw [endingAt?_sync_eq_some_iff hc (by simp) (by simp)]
  simp only [Context.endingOf_eq_recorded_iff, exists_eq_right]

/-- The ending that is reported of a container is the one to which it has come. -/
lemma getElem?_eq_endingAt?_sync {endings : List Ending} (hes : (s.sync setup t).2.endings = some endings)
    (hc : t.pod.containers[i]? = some c) :
    endings[i]? = (setup.context t.pod).endingAt? c (s.sync setup t).2.trace i := by
  rw [endingAt?_sync]
  exact Context.getElem?_eq_endingAt? hes hc

/-- The warnings are one about the failed pod, if it failed, and the store adds none. -/
lemma filter_warning_sync (s : Session) (setup : Setup) (t : Task) :
    (recordsIn (s.sync setup t).2.trace).filter
        (fun r => r.level == .warn || r.word? == some "pod_sync_failed") =
      (s.sync setup t).2.failure?.toList.map .podFailed := by
  rw [filter_recordsIn_sync fun r hr => by simp [hr.level, hr.word]]
  exact Context.filter_warning_report setup _ t

/-- Whatever happens to a container happens within the spans of this container, also what the store logs about
it. -/
theorem spans_sync {m : Moment} (hm : m ∈ (s.sync setup t).2.trace) (hi : m.position = some i)
    (hc : t.pod.containers[i]? = some c) : m.spans = [Log.podSpan t.pod.id, Log.containerSpan c.name] := by
  rcases mem_throughStore hm with hthere | ⟨time, position, spans, change, e, hchange, rfl⟩
  · exact Context.spans_report setup _ t m hthere i c hi hc
  · exact Context.spans_report setup _ t _ hchange i c hi hc

/-- Every record is about the container at its position, in the spans of this container, also those of the store;
only the record about the failed pod stands in the span of the pod alone. -/
theorem logged_sync {m : Moment} {record : Log.Record} (hm : m ∈ (s.sync setup t).2.trace)
    (hlogged : m.event = .logged record) :
    (∃ i c, m.position = some i ∧ t.pod.containers[i]? = some c ∧
      m.spans = [Log.podSpan t.pod.id, Log.containerSpan c.name]) ∨
    m.position = none ∧ m.spans = [Log.podSpan t.pod.id] ∧ record.word? = some "pod_sync_failed" := by
  have hplaced : (∃ i c, m.position = some i ∧ t.pod.containers[i]? = some c) →
      ∃ i c, m.position = some i ∧ t.pod.containers[i]? = some c ∧
        m.spans = [Log.podSpan t.pod.id, Log.containerSpan c.name] := by
    rintro ⟨i, c, hi, hc⟩
    exact ⟨i, c, hi, hc, spans_sync hm hi hc⟩
  rcases mem_throughStore hm with hthere | ⟨time, position, spans, change, e, hchange, rfl⟩
  · rcases Context.logged_report hthere hlogged with hplace | ⟨hnone, hspans, f, rfl⟩
    · exact .inl (hplaced hplace)
    · exact .inr ⟨hnone, hspans, Log.Record.word?_of_fields rfl⟩
  · have hplace := Context.changed_report hchange rfl
    exact .inl (hplaced hplace)

-- Of the seven containers of the crowded pod the fifth one is an error in the log, and it is no failure.
example :
    let r := ((Session.start crowdedSetup).sync crowdedSetup crowdedTask).2
    (recordsIn r.trace).filter (·.level == .error) =
        [.noVersionFound ⟨⟨"default", "web-0"⟩, "job"⟩ (.noVersionFound "job:1")] ∧
      ((recordsIn r.trace).filter (·.level == .warn)).map (·.fields.lookup "failed_containers") =
        [some (.count 4)] := by
  decide +kernel

end Session

end Freshness.Sync
