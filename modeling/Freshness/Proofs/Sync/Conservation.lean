import Freshness.Proofs.Sync.Aggregate
import Freshness.Proofs.Sync.History
import Freshness.Proofs.Sync.Notices
import Freshness.Proofs.Sync.Outcomes
import Freshness.Proofs.Sync.Place

/-!
# What the counters of the process keep

The counters of the process go on from one pod to the next.  Each pod whose work comes to its end adds to them
what can be counted elsewhere: one pod, by its result, one latency, and one outcome for each of its
containers; and the outcomes agree with the changes of the store, with the answers of the checks and with the
failures in the result (`counters_after_concat`).

The argument goes by positions.  What happens at the position of a container is known from its ending, so an
event that happens at the positions of containers only, and there exactly if the ending is of some kind, is
as frequent in the trace as this kind is among the endings (`countP_eq_countP_of_positions`).
-/

namespace Freshness.Sync

/-- Whether an event ends a check without a version. -/
def Event.findsNoVersion : Event → Bool
  | checkEnded (.failed (.noVersionFound _)) => true
  | _ => false

/-- Whether a change adds an entry, and does not remove one. -/
def isAddition : Store.Change → Bool
  | .add _ => true
  | .remove _ => false

/-- Whether a container failed for its annotations, and not for its check. -/
def isConfiguration : ContainerFailure → Bool
  | .configuration _ _ => true
  | .check _ _ => false

/-- The failures of which a result is made. -/
def failuresIn : Except PodFailure Unit → List ContainerFailure
  | .ok _ => []
  | .error f => f.failures

/-! ## Counting by positions -/

/-- What is read from a list is of some kind as often as something of this kind is read. -/
lemma countP_filterMap_eq_countP_any {α β : Type} (f : α → Option β) (p : β → Bool) (l : List α) :
    (l.filterMap f).countP p = l.countP fun x => (f x).any p := by
  rw [List.countP_filterMap]
  refine List.countP_congr fun x _ => ?_
  cases f x <;> simp

/-- If what is counted in a trace is at the positions of endings, once where the ending is of some kind and
not at all elsewhere, then it is there as often as this kind is among the endings. -/
lemma countP_eq_countP_of_positions {p : Moment → Bool} {q : Ending → Bool} {trace : List Moment}
    {es : List Ending} (hplace : ∀ m ∈ trace, p m = true → ∃ i < es.length, m.position = some i)
    (hcount : ∀ i e, es[i]? = some e → (momentsAt trace i).countP p = if q e = true then 1 else 0) :
    trace.countP p = es.countP q := by
  induction es using List.reverseRecOn generalizing trace with
  | nil =>
    refine List.countP_eq_zero.2 fun m hm hp => ?_
    obtain ⟨i, hi, -⟩ := hplace m hm hp
    exact absurd hi (Nat.not_lt_zero i)
  | append_singleton es e ih =>
    -- what is at the last position is counted apart from the rest
    have hlast : (momentsAt trace es.length).countP p = if q e = true then 1 else 0 :=
      hcount es.length e List.getElem?_concat_length
    have hrest : (trace.filter fun m => !(m.position == some es.length)).countP p = es.countP q := by
      refine ih (fun m hm hp => ?_) fun i e' he' => ?_
      · obtain ⟨hmem, hother⟩ := List.mem_filter.1 hm
        obtain ⟨i, hi, hposition⟩ := hplace m hmem hp
        rw [List.length_append, List.length_singleton] at hi
        have hne : i ≠ es.length := by
          rintro rfl
          simp [hposition] at hother
        exact ⟨i, by omega, hposition⟩
      · have hi : i < es.length := (List.getElem?_eq_some_iff.1 he').1
        have hsame : momentsAt (trace.filter fun m => !(m.position == some es.length)) i =
            momentsAt trace i := by
          unfold momentsAt
          rw [List.filter_filter]
          refine List.filter_congr fun m _ => ?_
          by_cases hposition : m.position = some i
          · have hne : i ≠ es.length := by omega
            simp [hposition, hne]
          · simp [hposition]
        rw [hsame]
        exact hcount i e' (by rwa [List.getElem?_append_left hi])
    rw [List.countP_append, List.countP_singleton, ← hlast, ← hrest, Nat.add_comm]
    exact List.countP_eq_countP_filter_add ..

/-! ## The ending of a container -/

namespace Context

variable {ctx : Context} {c : Container}

/-- A container that has ended is counted once, with the outcome of its ending. -/
lemma Account.filterMap_observation? {events : List Event} {time : Nat} {e : Ending}
    (h : ctx.Account c events (.ended time e)) :
    events.filterMap (·.observation?) = [.container e.outcome] := by
  have hending : events.filterMap (·.observation?) = (ctx.endingEvents c e).filterMap (·.observation?) := by
    refine h.filterMap_of_ended (fun ev hquestion => ?_) rfl (fun _ => observation?_of_isAside) fun _ => rfl
    cases ev <;> simp_all [Event.isQuestion, Event.observation?]
  rw [hending]
  cases e <;> rfl

/-- The check of a container that has ended found no version exactly if this is the ending. -/
lemma Account.countP_findsNoVersion {events : List Event} {time : Nat} {e : Ending}
    (h : ctx.Account c events (.ended time e)) :
    events.countP (·.findsNoVersion) = if (e.outcome == .noVersionFound) = true then 1 else 0 := by
  have hending : ∀ e : Ending, (ctx.endingEvents c e).countP (·.findsNoVersion) = 0 := by
    intro e
    cases e <;> rfl
  cases h with
  | disabled _ => exact hending .disabled
  | @misconfigured _ issues _ _ => exact hending (.failed (.configuration c.name issues))
  | @checked _ _ pre a _ _ hpre =>
    have hopening : (ctx.opening c).countP (·.findsNoVersion) = 0 := rfl
    have haside : pre.countP (·.findsNoVersion) = 0 := by
      refine List.countP_eq_zero.2 fun ev hev => ?_
      have hstands := hpre ev hev
      cases ev <;> simp_all [Event.isAside, Event.findsNoVersion]
    rw [List.countP_append, List.countP_append, List.countP_cons, hopening, haside, hending]
    cases a with
    | pending => rfl
    | found v => rfl
    | failed f => cases f <;> rfl

/-- A container that has ended has changed the store as its ending calls for. -/
lemma Account.countP_change? {events : List Event} {time : Nat} {e : Ending} {p : Store.Change → Bool}
    (h : ctx.Account c events (.ended time e)) :
    events.countP (·.change?.any p) =
      if (Completion.change? ⟨ctx.key c, e⟩).any p = true then 1 else 0 := by
  have hending : events.filterMap (·.change?) = (Completion.change? ⟨ctx.key c, e⟩).toList := by
    rw [← filterMap_change?_endingEvents]
    refine h.filterMap_of_ended (fun ev hquestion => ?_) rfl (fun ev haside => ?_) fun _ => rfl
    · cases ev <;> simp_all [Event.isQuestion, Event.change?]
    · cases ev <;> simp_all [Event.isAside, Event.change?]
  rw [← countP_filterMap_eq_countP_any, hending]
  cases Completion.change? ⟨ctx.key c, e⟩ with
  | none => rfl
  | some change => exact List.countP_singleton

/-! ## The endings of a report -/

variable {setup : Setup} {earlier : String → Nat} {t : Task} {es : List Ending}

/-- In the course of the work on a pod only containers are counted, each at its position. -/
lemma exists_of_observation?_eq_some {m : Moment} {x : Observation}
    (hm : m ∈ (setup.final earlier t).trace) (hx : m.event.observation? = some x) :
    ∃ i < t.pod.containers.length, m.position = some i ∧ ∃ o, x = .container o := by
  rcases inPlace_steps earlier t _ m hm with ⟨-, he | he⟩ | ⟨i, c, hi, hc, hown⟩
  · rw [he] at hx
    cases hx
  · rw [he] at hx
    cases hx
  · refine ⟨i, (List.getElem?_eq_some_iff.1 hc).1, hi, ?_⟩
    generalize m.event = ev at hown hx
    cases hown with
    | counted o => exact ⟨o, (Option.some.inj hx).symm⟩
    | _ => cases hx

/-- Where a report counts a container, there is one at this position. -/
lemma exists_position_of_counted {m : Moment} {o : Outcome}
    (hes : (setup.report earlier t).endings = some es) (hm : m ∈ (setup.report earlier t).trace)
    (hcounted : m.event = .counted (.container o)) : ∃ i < es.length, m.position = some i := by
  have hobserved : m.event.observation? = some (.container o) := by
    rw [hcounted]
    rfl
  rw [(concluded_of_endings_eq_some hes).1]
  rcases mem_trace_report hm with hcourse | ⟨es', -, ev, hev, rfl⟩
  · obtain ⟨i, hi, hposition, -⟩ := exists_of_observation?_eq_some hcourse hobserved
    exact ⟨i, hi, hposition⟩
  · rcases List.mem_cons.1 hev with rfl | hlog
    · cases hcounted
    · obtain ⟨f, -, rfl⟩ := List.mem_map.1 hlog
      cases hcounted

/-- What a report that tells endings has counted: containers, and at the end the pod, by its result. -/
lemma observations_report (hes : (setup.report earlier t).endings = some es) :
    ∃ containers seconds, (setup.report earlier t).counters.observations =
        containers ++ [.pod (Report.failuresOf es).isEmpty seconds] ∧
      ∀ x ∈ containers, ∃ o, x = Observation.container o := by
  refine ⟨(setup.final earlier t).trace.filterMap (·.event.observation?),
    .ofRatio false (setup.final earlier t).now 1000, ?_, fun x hx => ?_⟩
  · have hclosing : ((closing t.pod.id (setup.final earlier t).now es).map fun ev =>
        (⟨(setup.final earlier t).now, none, [Log.podSpan t.pod.id], ev⟩ : Moment)).filterMap (·.event.observation?) =
        [.pod (Report.failuresOf es).isEmpty (.ofRatio false (setup.final earlier t).now 1000)] := by
      unfold closing PodFailure.ofFailures?
      cases (Report.failuresOf es).isEmpty <;> rfl
    unfold Report.counters
    rw [trace_report_of_endings hes, List.filterMap_append, hclosing]
  · obtain ⟨m, hm, hobserved⟩ := List.mem_filterMap.1 hx
    obtain ⟨-, -, -, hcontainer⟩ := exists_of_observation?_eq_some hm hobserved
    exact hcontainer

/-- What happens to containers only, and to a container that has ended exactly if the ending is of some kind,
is as frequent in a report as this kind is among the endings. -/
lemma countP_report (hes : (setup.report earlier t).endings = some es) {p : Event → Bool}
    {q : Ending → Bool} (hnote : ∀ ev : Event, ev.isNote = true → p ev = false)
    (hcancelled : p .cancelled = false) (hmade : ∀ a, p (.resolverMade a) = false)
    (haccount : ∀ {c events time e}, (setup.context t.pod).Account c events (.ended time e) →
      events.countP p = if q e = true then 1 else 0) :
    (setup.report earlier t).trace.countP (p ·.event) = es.countP q := by
  obtain ⟨hlength, hconcluded⟩ := concluded_of_endings_eq_some hes
  refine countP_eq_countP_of_positions (fun m hm hp => ?_) fun i e he => ?_
  · rcases inPlace_report setup earlier t m hm with (⟨-, hev | hev⟩ | ⟨i, c, hi, hc, -⟩) | ⟨-, hev⟩
    · rw [hev, hcancelled] at hp
      cases hp
    · rw [hev, hmade] at hp
      cases hp
    · exact ⟨i, hlength ▸ (List.getElem?_eq_some_iff.1 hc).1, hi⟩
    · rw [hnote _ hev] at hp
      cases hp
  · have hi : i < t.pod.containers.length := hlength ▸ (List.getElem?_eq_some_iff.1 he).1
    obtain ⟨begun, time, hstory⟩ := hconcluded i _ e (List.getElem?_eq_getElem hi) he
    rw [← haccount hstory.account, List.countP_map]
    rfl

/-- The changes of some kind in a report are as many as the endings that call for such a change. -/
lemma countP_changes_report (hes : (setup.report earlier t).endings = some es) {p : Store.Change → Bool}
    {q : Ending → Bool} (hq : ∀ k e, (Completion.change? ⟨k, e⟩).any p = q e) :
    (setup.report earlier t).changes.countP p = es.countP q := by
  unfold Report.changes
  rw [countP_filterMap_eq_countP_any]
  refine countP_report hes (p := (·.change?.any p)) (fun ev hnote => ?_) rfl (fun _ => rfl) fun h => ?_
  · cases ev <;> simp_all [Event.isNote, Event.change?]
  · rw [h.countP_change?, hq]

/-- The checks that found no version are as many as the endings that say so. -/
lemma countP_findsNoVersion_report (hes : (setup.report earlier t).endings = some es) :
    (setup.report earlier t).trace.countP (·.event.findsNoVersion) =
      es.countP (·.outcome == .noVersionFound) := by
  refine countP_report hes (fun ev hnote => ?_) rfl (fun _ => rfl) fun h => h.countP_findsNoVersion
  cases ev <;> simp_all [Event.isNote, Event.findsNoVersion]

end Context

/-- The failures of some kind are as many as the endings that are such failures. -/
lemma countP_failuresOf {p : ContainerFailure → Bool} {q : Ending → Bool}
    (hq : ∀ e : Ending, e.failure?.any p = q e) (es : List Ending) :
    (Report.failuresOf es).countP p = es.countP q := by
  unfold Report.failuresOf
  rw [countP_filterMap_eq_countP_any]
  exact List.countP_congr fun e _ => by rw [hq]

/-- An ending is a failure for annotations exactly if it is counted as one. -/
lemma any_isConfiguration_failure? (e : Ending) :
    e.failure?.any isConfiguration = (e.outcome == .configurationError) := by
  cases e with
  | failed f => cases f <;> rfl
  | _ => rfl

/-- An ending is a failure for its check exactly if it is counted as one. -/
lemma any_not_isConfiguration_failure? (e : Ending) :
    e.failure?.any (!isConfiguration ·) = (e.outcome == .checkFailed) := by
  cases e with
  | failed f => cases f <;> rfl
  | _ => rfl

/-- An ending calls for a new entry exactly if it is counted as recorded. -/
lemma any_isAddition_change? (k : Store.Key) (e : Ending) :
    (Completion.change? ⟨k, e⟩).any isAddition = (e.outcome == .recorded) := by
  cases e with
  | failed f => cases f <;> rfl
  | _ => rfl

/-- An ending calls for a removal exactly if it is counted as disabled. -/
lemma any_not_isAddition_change? (k : Store.Key) (e : Ending) :
    (Completion.change? ⟨k, e⟩).any (!isAddition ·) = (e.outcome == .disabled) := by
  cases e with
  | failed f => cases f <;> rfl
  | _ => rfl

/-- Every ending is counted with one of the outcomes. -/
lemma sum_countP_outcome (es : List Ending) :
    (Outcome.all.map fun o => es.countP (·.outcome == o)).sum = es.length := by
  induction es with
  | nil => rfl
  | cons e es ih =>
    simp only [Outcome.all, List.map_cons, List.map_nil, List.sum_cons, List.sum_nil,
      List.countP_cons, List.length_cons] at ih ⊢
    rw [← ih]
    cases e.outcome <;> simp <;> omega

/-! ## The counters of a process -/

/-- Counters after several more observations. -/
def observeAll (c : Counters) (observations : List Observation) : Counters :=
  observations.foldl Counters.observe c

/-- Observations are added to those that were made before. -/
lemma observations_observeAll (c : Counters) (observations : List Observation) :
    (observeAll c observations).observations = c.observations ++ observations := by
  induction observations generalizing c with
  | nil => exact (List.append_nil _).symm
  | cons o rest ih =>
    refine (ih (c.observe o)).trans ?_
    simp [Counters.observe]

/-- The containers with an outcome are those from before and those that were observed since. -/
lemma outcome_observeAll (c : Counters) (observations : List Observation) (o : Outcome) :
    (observeAll c observations).outcome o = c.outcome o + Counters.outcome ⟨observations⟩ o := by
  unfold Counters.outcome
  rw [observations_observeAll, List.count_append]

/-- The pods with a result are those from before and those that were observed since. -/
lemma pods_observeAll (c : Counters) (observations : List Observation) (success : Bool) :
    (observeAll c observations).pods success = c.pods success + Counters.pods ⟨observations⟩ success := by
  unfold Counters.pods
  rw [observations_observeAll, List.countP_append]

/-- The latencies are those from before and those that were observed since. -/
lemma latencyCount_observeAll (c : Counters) (observations : List Observation) :
    (observeAll c observations).latencyCount = c.latencyCount + Counters.latencyCount ⟨observations⟩ := by
  unfold Counters.latencyCount Counters.latencies
  rw [observations_observeAll, List.filterMap_append, List.length_append]

/-- One pod after some containers counts as one pod, with its result. -/
lemma pods_concat_pod {containers : List Observation}
    (h : ∀ x ∈ containers, ∃ o, x = Observation.container o) (b success : Bool) (seconds : Binary64) :
    Counters.pods ⟨containers ++ [.pod b seconds]⟩ success = (b == success).toNat := by
  have hnone : Counters.pods ⟨containers⟩ success = 0 := by
    refine List.countP_eq_zero.2 fun x hx => ?_
    obtain ⟨o, rfl⟩ := h x hx
    exact Bool.false_ne_true
  unfold Counters.pods at hnone ⊢
  rw [List.countP_append, hnone, Nat.zero_add, List.countP_singleton]
  cases b <;> cases success <;> rfl

/-- One pod after some containers has one latency. -/
lemma latencyCount_concat_pod {containers : List Observation}
    (h : ∀ x ∈ containers, ∃ o, x = Observation.container o) (b : Bool) (seconds : Binary64) :
    Counters.latencyCount ⟨containers ++ [.pod b seconds]⟩ = 1 := by
  have hnone : Counters.latencies ⟨containers⟩ = [] := by
    refine List.filterMap_eq_nil_iff.2 fun x hx => ?_
    obtain ⟨o, rfl⟩ := h x hx
    rfl
  unfold Counters.latencyCount
  unfold Counters.latencies at hnone ⊢
  rw [List.filterMap_append, hnone]
  rfl

namespace Session

/-- The counters after several jobs of a session, one after the other, from what was counted before. -/
def countersAfter (s : Session) (c : Counters) : List Job → Counters
  | [] => c
  | j :: rest =>
    let (next, r) := s.sync j.setup j.task
    next.countersAfter (observeAll c r.counters.observations) rest

/-- One more job adds what its report has counted. -/
lemma countersAfter_concat (s : Session) (c : Counters) (jobs : List Job) (j : Job) :
    s.countersAfter c (jobs ++ [j]) =
      observeAll (s.countersAfter c jobs) ((s.after jobs).sync j.setup j.task).2.counters.observations := by
  induction jobs generalizing s c with
  | nil => rfl
  | cons j' rest ih => exact ih _ _

/-- What the store logs is not counted. -/
lemma counters_sync (s : Session) (j : Job) :
    (s.sync j.setup j.task).2.counters = (s.report j).counters := by
  have hread : (s.sync j.setup j.task).2.trace.filterMap (·.event.observation?) =
      (s.report j).trace.filterMap (·.event.observation?) :=
    filterMap_throughStore (fun _ _ _ _ => rfl) s.store (s.report j).trace
  exact congrArg Counters.mk hread

/-- What the store logs changes nothing. -/
lemma changes_sync (s : Session) (j : Job) :
    (s.sync j.setup j.task).2.changes = (s.report j).changes :=
  filterMap_throughStore (fun _ _ _ _ => rfl) s.store (s.report j).trace

/-- What is read from the events at a position is the same after the trace has gone through the store if
nothing is read from log records. -/
lemma observation?_eventsAt_sync (s : Session) (j : Job) (i : Nat) :
    (eventsAt (s.sync j.setup j.task).2.trace i).filterMap (·.observation?) =
      (eventsAt (s.report j).trace i).filterMap (·.observation?) :=
  filterMap_eventsAt_throughStore (fun _ => rfl) s.store (s.report j).trace i

/-- A job whose work comes to a result has endings, of whose failures the result is made. -/
lemma exists_endings_of_result?_sync {s : Session} {j : Job} {result : Except PodFailure Unit}
    (h : (s.sync j.setup j.task).2.result? = some result) :
    ∃ es, (s.report j).endings = some es ∧ failuresIn result = Report.failuresOf es ∧
      result.isOk = (Report.failuresOf es).isEmpty := by
  have hreport : (s.report j).result? = some result := h
  obtain ⟨es, hes, -⟩ := Option.map_eq_some_iff.1 hreport
  obtain rfl := Option.some.inj (hreport.symm.trans (result?_report_of_endings hes))
  refine ⟨es, hes, ?_⟩
  cases hfailures : Report.failuresOf es with
  | nil => exact ⟨rfl, rfl⟩
  | cons f rest => exact ⟨rfl, rfl⟩

/-- A job adds to the counters of each outcome the endings that are counted so. -/
lemma outcome_countersAfter_concat {s₀ : Session} {c : Counters} {jobs : List Job} {j : Job}
    {es : List Ending} (hes : ((s₀.after jobs).report j).endings = some es) (o : Outcome) :
    (s₀.countersAfter c (jobs ++ [j])).outcome o =
      (s₀.countersAfter c jobs).outcome o + es.countP (·.outcome == o) := by
  rw [countersAfter_concat, outcome_observeAll, counters_sync]
  exact congrArg _ (Context.outcome_counters_report hes o)

/-- **The counters are conserved.**  Whatever jobs went before, with whatever settings, and whatever was
counted before: a job whose work comes to a result adds one pod with this result, one latency, and as many
outcomes as the pod has containers, one at the position of each.  It adds as many recorded containers as it
adds entries to the store, as many disabled ones as it removes places from it, as many without a version as
checks found none, and as many failed ones, for their annotations and for their checks, as there are such
failures in the result. -/
theorem counters_after_concat (s₀ : Session) (c : Counters) (jobs : List Job) (j : Job)
    {result : Except PodFailure Unit}
    (hresult : ((s₀.after jobs).sync j.setup j.task).2.result? = some result) :
    let r := ((s₀.after jobs).sync j.setup j.task).2
    let old := s₀.countersAfter c jobs
    let new := s₀.countersAfter c (jobs ++ [j])
    new.pods true = old.pods true + result.isOk.toNat ∧
    new.pods false = old.pods false + (!result.isOk).toNat ∧
    new.latencyCount = old.latencyCount + 1 ∧
    (Outcome.all.map new.outcome).sum = (Outcome.all.map old.outcome).sum + j.task.pod.containers.length ∧
    (∀ i < j.task.pod.containers.length,
      ∃ o, (eventsAt r.trace i).filterMap (·.observation?) = [.container o]) ∧
    (∀ m ∈ r.trace, ∀ o, m.event = .counted (.container o) →
      ∃ i < j.task.pod.containers.length, m.position = some i) ∧
    new.outcome .recorded = old.outcome .recorded + r.changes.countP isAddition ∧
    new.outcome .disabled = old.outcome .disabled + r.changes.countP (!isAddition ·) ∧
    new.outcome .noVersionFound =
      old.outcome .noVersionFound + r.trace.countP (·.event.findsNoVersion) ∧
    new.outcome .configurationError =
      old.outcome .configurationError + (failuresIn result).countP isConfiguration ∧
    new.outcome .checkFailed =
      old.outcome .checkFailed + (failuresIn result).countP (!isConfiguration ·) := by
  intro r old new
  obtain ⟨es, hes, hfailures, hok⟩ := exists_endings_of_result?_sync hresult
  have houtcome : ∀ o, new.outcome o = old.outcome o + es.countP (·.outcome == o) :=
    outcome_countersAfter_concat hes
  obtain ⟨hlength, hconcluded⟩ := Context.concluded_of_endings_eq_some hes
  obtain ⟨containers, seconds, hobserved, hcontainers⟩ := Context.observations_report hes
  have hnew : new = observeAll old (containers ++ [.pod result.isOk seconds]) := by
    have hcounters : r.counters = ((s₀.after jobs).report j).counters := counters_sync _ j
    have hr : r.counters.observations = containers ++ [.pod result.isOk seconds] := by
      rw [hcounters, hok]
      exact hobserved
    rw [← hr]
    exact countersAfter_concat s₀ c jobs j
  have hpods : ∀ success, new.pods success = old.pods success + (result.isOk == success).toNat := by
    intro success
    rw [hnew, pods_observeAll, pods_concat_pod hcontainers]
  refine ⟨?_, ?_, ?_, ?_, fun i hi => ?_, fun m hm o hcounted => ?_, ?_, ?_, ?_, ?_, ?_⟩
  · rw [hpods, beq_true]
  · rw [hpods, beq_false]
  · rw [hnew, latencyCount_observeAll, latencyCount_concat_pod hcontainers]
  · have hsum := sum_countP_outcome es
    simp only [Outcome.all, List.map_cons, List.map_nil, List.sum_cons, List.sum_nil, houtcome] at hsum ⊢
    omega
  · have hc : j.task.pod.containers[i]? = some j.task.pod.containers[i] := List.getElem?_eq_getElem hi
    obtain ⟨e, he⟩ := Context.exists_ending_of_length hlength hc
    obtain ⟨begun, time, hstory⟩ := hconcluded i _ e hc he
    refine ⟨e.outcome, ?_⟩
    rw [observation?_eventsAt_sync]
    exact hstory.account.filterMap_observation?
  · rcases mem_throughStore hm with hthere | ⟨time, position, spans, change, e, -, rfl⟩
    · rw [← hlength]
      exact Context.exists_position_of_counted hes hthere hcounted
    · cases hcounted
  · rw [houtcome, changes_sync, Session.report, Context.countP_changes_report hes any_isAddition_change?]
  · rw [houtcome, changes_sync, Session.report, Context.countP_changes_report hes any_not_isAddition_change?]
  · have hfound : r.trace.countP (·.event.findsNoVersion) =
        ((s₀.after jobs).report j).trace.countP (·.event.findsNoVersion) :=
      countP_throughStore (fun _ => rfl) _ _
    rw [houtcome, hfound]
    exact congrArg _ (Context.countP_findsNoVersion_report hes).symm
  · rw [houtcome, hfailures, countP_failuresOf any_isConfiguration_failure?]
  · rw [houtcome, hfailures, countP_failuresOf any_not_isConfiguration_failure?]

/-- The second time the work on the crowded pod fails once more, and all its containers are counted again. -/
theorem counters_after_concat_crowded :
    let job : Job := ⟨crowdedSetup, crowdedTask⟩
    let s₀ := Session.start crowdedSetup
    let failures : List ContainerFailure :=
      [.check "api" (.deadlineExceeded (.ofMillis 25)), .check "db" (.other "registry down" []),
        .configuration "bad" [.invalidPin "pin-major/bad" "y"], .check "web" .cancelled]
    let old := s₀.countersAfter .empty [job]
    let new := s₀.countersAfter .empty ([job] ++ [job])
    ((s₀.after [job]).sync job.setup job.task).2.result? =
      some (.error ⟨⟨"default", "web-0"⟩, failures⟩) ∧
    new.pods true = old.pods true ∧ new.pods false = old.pods false + 1 ∧
    new.latencyCount = old.latencyCount + 1 ∧
    (Outcome.all.map new.outcome).sum = (Outcome.all.map old.outcome).sum + 7 ∧
    new.outcome .recorded = old.outcome .recorded + 1 ∧
    new.outcome .disabled = old.outcome .disabled + 1 ∧
    new.outcome .noVersionFound = old.outcome .noVersionFound + 1 ∧
    new.outcome .configurationError = old.outcome .configurationError + 1 ∧
    new.outcome .checkFailed = old.outcome .checkFailed + 3 := by
  intro job s₀ failures old new
  have hresult : ((s₀.after [job]).sync job.setup job.task).2.result? =
      some (.error ⟨⟨"default", "web-0"⟩, failures⟩) := by
    decide +kernel
  have hadditions : ((s₀.after [job]).sync job.setup job.task).2.changes.countP isAddition = 1 := by
    decide +kernel
  have hremovals : ((s₀.after [job]).sync job.setup job.task).2.changes.countP (!isAddition ·) = 1 := by
    decide +kernel
  have hfound : ((s₀.after [job]).sync job.setup job.task).2.trace.countP (·.event.findsNoVersion) = 1 := by
    decide +kernel
  have hlength : job.task.pod.containers.length = 7 := rfl
  have hconfigurations :
      (failuresIn (.error ⟨⟨"default", "web-0"⟩, failures⟩)).countP isConfiguration = 1 := by decide
  have hchecks :
      (failuresIn (.error ⟨⟨"default", "web-0"⟩, failures⟩)).countP (!isConfiguration ·) = 3 := by decide
  obtain ⟨htrue, hfalse, hlatency, hsum, -, -, hrecorded, hdisabled, hnone, hconfiguration, hcheck⟩ :=
    counters_after_concat s₀ .empty [job] job hresult
  rw [hlength] at hsum
  rw [hadditions] at hrecorded
  rw [hremovals] at hdisabled
  rw [hfound] at hnone
  rw [hconfigurations] at hconfiguration
  rw [hchecks] at hcheck
  exact ⟨hresult, htrue.trans (Nat.add_zero _), hfalse, hlatency, hsum, hrecorded, hdisabled, hnone,
    hconfiguration, hcheck⟩

end Session

end Freshness.Sync
