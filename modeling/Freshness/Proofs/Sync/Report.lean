import Freshness.Proofs.Sync.Answer

/-!
# How the work on a pod comes to its end

A run stops where nothing can happen any more.  If every check that was called has ended, then every
container has ended there, and the report tells how (`exists_endings`); each ending follows from what
happened to its container (`concluded_of_endings_eq_some`).  `startedChecksEnd` says when checks end without
fail: if there is a deadline, or if the checker always has an answer.

What the report adds to the trace are notes on the pod as a whole, so that what happened to a container
can be read from the report.
-/

namespace Freshness.Sync

/-- An event that only notes something: a count or a log record. -/
def Event.isNote : Event → Bool
  | counted _ => true
  | logged _ => true
  | _ => false

/-- What happened before anything happened to the container at a position. -/
def before (trace : List Moment) (i : Nat) : List Moment := trace.takeWhile (·.position != some i)

/-- Every check that was called has come to an answer. -/
def Report.StartedChecksEnd (r : Report) : Prop :=
  ∀ m ∈ r.trace, m.event.calledName?.isSome = true → ∀ i ∈ m.position, answersAt r.trace i ≠ []

/-- Where the course on a pod comes to its end. -/
def Setup.final (setup : Setup) (earlier : String → Nat) (t : Task) : State :=
  (setup.context t.pod).run earlier t.start

/-! ## Reading the report -/

/-- What comes before the first thing that happens to a container. -/
lemma before_eq_of_prefix {pre ms trace : List Moment} {m : Moment} {i : Nat}
    (hfresh : momentsAt pre i = []) (hm : m.position = some i) (h : pre ++ m :: ms <+: trace) :
    before trace i = pre := by
  obtain ⟨rest, rfl⟩ := h
  have hpre : ∀ p ∈ pre, (p.position != some i) = true := fun p hp => by
    have hnot := List.filter_eq_nil_iff.1 hfresh p hp
    simpa using hnot
  unfold before
  rw [List.append_assoc, List.takeWhile_append_of_pos hpre, List.cons_append,
    List.takeWhile_cons_of_neg (by simp [hm]), List.append_nil]

/-- The report adds notes on the pod to the trace. -/
lemma report_trace_eq (pod : PodId) (s : State) :
    ∃ notes, (s.report pod).trace = s.trace ++ notes ∧
      ∀ m ∈ notes, m.position = none ∧ m.event.isNote = true := by
  refine ⟨_, rfl, fun m hm => ?_⟩
  obtain ⟨e, he, rfl⟩ := List.mem_map.1 hm
  refine ⟨rfl, ?_⟩
  cases hends : s.endings? with
  | none =>
    rw [hends] at he
    cases he
  | some es =>
    rw [hends] at he
    rcases List.mem_cons.1 he with rfl | hlog
    · rfl
    · obtain ⟨f, -, rfl⟩ := List.mem_map.1 hlog
      rfl

/-- What is read from the trace is the same in the report if nothing is read from notes on the pod. -/
lemma filterMap_report {α : Type} {f : Moment → Option α}
    (hf : ∀ m : Moment, m.position = none → m.event.isNote = true → f m = none) (pod : PodId)
    (s : State) : (s.report pod).trace.filterMap f = s.trace.filterMap f := by
  obtain ⟨notes, htrace, hnotes⟩ := report_trace_eq pod s
  have hnone : notes.filterMap f = [] :=
    List.filterMap_eq_nil_iff.2 fun m hm => hf m (hnotes m hm).1 (hnotes m hm).2
  rw [htrace, List.filterMap_append, hnone, List.append_nil]

/-- What happened to a container is the same in the report. -/
lemma momentsAt_report (pod : PodId) (s : State) (i : Nat) :
    momentsAt (s.report pod).trace i = momentsAt s.trace i := by
  obtain ⟨notes, htrace, hnotes⟩ := report_trace_eq pod s
  rw [htrace, momentsAt_append, momentsAt_of_position_eq_none (fun m hm => (hnotes m hm).1),
    List.append_nil]

/-- The events of a container are the same in the report. -/
lemma eventsAt_report (pod : PodId) (s : State) (i : Nat) :
    eventsAt (s.report pod).trace i = eventsAt s.trace i := by
  unfold eventsAt
  rw [momentsAt_report]

/-- The report is the one on where the course comes to its end. -/
lemma report_eq (setup : Setup) (earlier : String → Nat) (t : Task) :
    setup.report earlier t = (setup.final earlier t).report t.pod.id := rfl

/-- The work is cancelled in the report if it is cancelled at its end. -/
lemma cancelledIn_report (pod : PodId) (s : State) : cancelledIn (s.report pod).trace = s.cancelled := by
  obtain ⟨notes, htrace, hnotes⟩ := report_trace_eq pod s
  have hnone : notes.any (·.event.isCancellation) = false := by
    refine List.any_eq_false.2 fun m hm hcancel => ?_
    have hnote := (hnotes m hm).2
    cases he : m.event <;> simp [he, Event.isNote, Event.isCancellation] at hnote hcancel
  unfold cancelledIn State.cancelled
  rw [htrace, List.any_append, hnone, Bool.or_false]

/-- What happens to a container is what the trace has at its position. -/
lemma mem_eventsAt {trace : List Moment} {m : Moment} {i : Nat} (h : m ∈ trace)
    (hposition : m.position = some i) : m.event ∈ eventsAt trace i := by
  refine List.mem_map_of_mem (List.mem_filter.2 ⟨h, ?_⟩)
  simp [hposition]

/-! ## Answers in accounts -/

namespace Context

variable {ctx : Context} {c : Container} {es : List Event}

/-- The events of an ending hold no answer. -/
lemma filterMap_answer?_endingEvents (c : Container) (e : Ending) :
    (ctx.endingEvents c e).filterMap (·.answer?) = [] := by
  refine List.filterMap_eq_nil_iff.2 fun ev hev => ?_
  rw [Option.eq_none_iff_forall_ne_some]
  intro a ha
  rw [Event.answer?_eq_some_iff] at ha
  subst ha
  exact checkEnded_not_mem_endingEvents c e a hev

/-- What stands aside holds no answer. -/
lemma filterMap_answer?_of_isAside {pre : List Event} (hpre : ∀ e ∈ pre, e.isAside = true) :
    pre.filterMap (·.answer?) = [] := by
  refine filterMap_of_isAside (fun ev haside => ?_) hpre
  cases ev <;> simp_all [Event.isAside, Event.answer?]

/-- What opens the work on a container holds no answer. -/
lemma filterMap_answer?_opening (c : Container) : (ctx.opening c).filterMap (·.answer?) = [] := rfl

/-- A container whose check is under way has no answer. -/
lemma Account.filterMap_answer?_of_waiting {check : Check} (h : ctx.Account c es (.waiting check)) :
    es.filterMap (·.answer?) = [] := by
  cases h with
  | checking _ _ hpre =>
    rw [List.filterMap_append, filterMap_answer?_opening, filterMap_answer?_of_isAside hpre]
    rfl

/-- A container whose check is under way is to be checked. -/
lemma Account.isEnabled_of_waiting {check : Check} (h : ctx.Account c es (.waiting check)) :
    ctx.resolver.isEnabled ctx.limits.checkByDefault c.name = true := by
  cases h with
  | checking henabled _ _ => exact henabled

/-- A container with a check that has ended has one answer. -/
lemma filterMap_answer?_checked {pre : List Event} {a : Answer}
    (hpre : ∀ e ∈ pre, e.isAside = true) :
    (ctx.opening c ++ pre ++ .checkEnded a :: ctx.endingEvents c (endingOf c a)).filterMap (·.answer?) =
      [a] := by
  have hends : (Event.checkEnded a).answer? = some a := rfl
  rw [List.filterMap_append, List.filterMap_append, filterMap_answer?_opening,
    filterMap_answer?_of_isAside hpre, List.filterMap_cons_some hends, filterMap_answer?_endingEvents]
  rfl

/-- No check is called in the events of an ending. -/
lemma calledName?_of_mem_endingEvents {e : Ending} {ev : Event} (h : ev ∈ ctx.endingEvents c e) :
    ev.calledName? = none := by
  have hnone : ∀ ev ∈ ctx.endingEvents c e, ev.calledName? = none := by
    cases e <;> simp [endingEvents, Event.calledName?]
  exact hnone ev h

/-- A container that has ended has an answer if its check was called. -/
lemma Account.filterMap_answer?_ne_nil {time : Nat} {e : Ending} (h : ctx.Account c es (.ended time e))
    {ev : Event} (hmem : ev ∈ es) (hcall : ev.calledName?.isSome = true) :
    es.filterMap (·.answer?) ≠ [] := by
  have hending : ∀ {e : Ending}, ev ∉ ctx.endingEvents c e := fun hev => by
    rw [calledName?_of_mem_endingEvents hev] at hcall
    cases hcall
  cases h with
  | disabled _ =>
    rcases List.mem_cons.1 hmem with rfl | hev
    · cases hcall
    · exact absurd hev hending
  | misconfigured _ _ =>
    rcases List.mem_cons.1 hmem with rfl | hev
    · cases hcall
    · rcases List.mem_cons.1 hev with rfl | hev
      · cases hcall
      · exact absurd hev hending
  | checked _ _ hpre =>
    rw [filterMap_answer?_checked hpre]
    exact List.cons_ne_nil _ _

/-- A container that has ended without being checked is disabled. -/
lemma Account.eq_disabled {time : Nat} {e : Ending} (h : ctx.Account c es (.ended time e))
    (hdisabled : ctx.resolver.isEnabled ctx.limits.checkByDefault c.name = false) : e = .disabled := by
  cases h with
  | disabled _ => rfl
  | misconfigured henabled _ => rw [hdisabled] at henabled; cases henabled
  | checked henabled _ _ => rw [hdisabled] at henabled; cases henabled

/-- A container that has ended with wrong annotations has failed for them. -/
lemma Account.eq_configuration {time : Nat} {e : Ending} (h : ctx.Account c es (.ended time e))
    (henabled : ctx.resolver.isEnabled ctx.limits.checkByDefault c.name = true) {issues : List Issue}
    (hissues : ctx.resolver.options c.name = .error issues) :
    e = .failed (.configuration c.name issues) := by
  cases h with
  | disabled hdisabled => rw [henabled] at hdisabled; cases hdisabled
  | misconfigured _ hoptions =>
    obtain rfl := Except.error.inj (hissues.symm.trans hoptions)
    rfl
  | checked _ hoptions _ => rw [hissues] at hoptions; cases hoptions

/-- A container that has ended with a check has one answer, which makes its ending. -/
lemma Account.exists_answer {time : Nat} {e : Ending} (h : ctx.Account c es (.ended time e))
    (henabled : ctx.resolver.isEnabled ctx.limits.checkByDefault c.name = true) {o : Options}
    (hok : ctx.resolver.options c.name = .ok o) :
    ∃ a, es.filterMap (·.answer?) = [a] ∧ e = endingOf c a := by
  cases h with
  | disabled hdisabled => rw [henabled] at hdisabled; cases hdisabled
  | misconfigured _ hoptions => rw [hok] at hoptions; cases hoptions
  | checked _ _ hpre => exact ⟨_, filterMap_answer?_checked hpre, rfl⟩

/-! ## The end of the course -/

/-- A container whose check is not under way has ended. -/
lemma isSome_ending?_of_isWaiting_eq_false {slot : Slot} (h : slot.isWaiting = false) :
    slot.ending?.isSome = true := by
  unfold Slot.ending?
  cases hp : slot.progress with
  | waiting check => simp [Slot.isWaiting, Slot.check?, hp] at h
  | ended time e => rfl

/-- The ending of a container is the one that its progress came to. -/
lemma exists_progress_eq_ended {slot : Slot} {e : Ending} (h : slot.ending? = some e) :
    ∃ time, slot.progress = .ended time e := by
  unfold Slot.ending? at h
  cases hp : slot.progress with
  | waiting check => simp [hp] at h
  | ended time e' =>
    simp only [hp, Option.some.injEq] at h
    exact ⟨time, by rw [h]⟩

variable {earlier : String → Nat} {s : State} {i : Nat} {slot : Slot} {pre : List Moment}

/-- What happened to a container that has begun is its account. -/
lemma Told.account (h : ctx.Told earlier s i slot pre) :
    ctx.Account slot.container (eventsAt s.trace i) slot.progress := h.story.account

/-- The first part of the trace in a story is what comes before the container. -/
lemma Told.before_eq (h : ctx.Told earlier s i slot pre) {trace : List Moment}
    (htrace : s.trace <+: trace) : before trace i = pre := by
  obtain ⟨spans, hbegan⟩ := h.began
  exact before_eq_of_prefix (m := ⟨slot.begun, some i, spans, _⟩) h.fresh rfl (hbegan.trans htrace)

/-- What comes before the container that begins next is all that has happened so far. -/
lemma Invariant.before_beginNext {containers : List Container} (h : ctx.Invariant earlier containers s)
    {rest : List Container} :
    before (ctx.beginNext earlier s c rest).trace s.slots.length = s.trace :=
  before_eq_of_prefix (m := ⟨s.now, some s.slots.length, _, _⟩) (h.unbegun _ (Nat.le_refl _)) rfl
    List.prefix_rfl

/-- A check that is under way has been called. -/
lemma Told.exists_checkCalled (h : ctx.Told earlier s i slot pre) {check : Check}
    (hcheck : slot.progress = .waiting check) :
    ∃ time spans o, (⟨time, some i, spans, .checkCalled slot.container o⟩ : Moment) ∈ s.trace := by
  have hstory := h.story
  rw [hcheck] at hstory
  obtain ⟨-, o, hstart, -⟩ := hstory.checkOf
  obtain ⟨spans, hbegan⟩ := h.began
  rw [hstart] at hbegan
  refine ⟨slot.begun, spans, o, hbegan.subset (List.mem_append_right _ ?_)⟩
  refine List.mem_map_of_mem (f := fun e => (⟨slot.begun, some i, spans, e⟩ : Moment)) ?_
  exact List.mem_append_right _ (List.mem_append_left _ List.mem_cons_self)

variable {setup : Setup} {t : Task}

/-- At the end of the course the containers that have begun have a story. -/
lemma invariant_final (setup : Setup) (earlier : String → Nat) (t : Task) :
    (setup.context t.pod).Invariant earlier t.pod.containers (setup.final earlier t) :=
  invariant_steps earlier t _

/-- At the end of the course nothing can happen any more. -/
lemma stopped_final (setup : Setup) (earlier : String → Nat) (t : Task) :
    (setup.context t.pod).Stopped (setup.final earlier t) :=
  stopped_of_step?_eq_none (step?_run earlier t.start)

/-- Once every check that was called has ended, no container is left and no check is under way. -/
theorem not_isWaiting_final (hn : 0 < setup.limits.concurrency)
    (hends : (setup.report earlier t).StartedChecksEnd) :
    (setup.final earlier t).queue = [] ∧
      ∀ slot ∈ (setup.final earlier t).slots, slot.isWaiting = false := by
  refine ((stopped_final setup earlier t).ended_or_stuck hn).resolve_right ?_
  rintro ⟨i, slot, check, hslot, hcheck, -, -⟩
  obtain ⟨pre, htold⟩ := (invariant_final setup earlier t).told i slot hslot
  obtain ⟨notes, htrace, -⟩ := report_trace_eq t.pod.id (setup.final earlier t)
  rw [report_eq] at hends
  -- the check was called, so it has an answer, but its account says that it has none
  obtain ⟨time, spans, o, hcalled⟩ := htold.exists_checkCalled hcheck
  have hreported : (⟨time, some i, spans, .checkCalled slot.container o⟩ : Moment) ∈
      ((setup.final earlier t).report t.pod.id).trace := by
    rw [htrace]
    exact List.mem_append_left notes hcalled
  have haccount := htold.account
  rw [hcheck] at haccount
  refine hends _ hreported rfl i rfl ?_
  rw [answersAt, eventsAt_report]
  exact haccount.filterMap_answer?_of_waiting

/-- Where no container is left at the end, all of them have begun. -/
lemma map_container_final (hqueue : (setup.final earlier t).queue = []) :
    (setup.final earlier t).slots.map (·.container) = t.pod.containers := by
  have hall := (invariant_final setup earlier t).containers_eq
  rwa [hqueue, List.append_nil] at hall

/-- Every check that is called ends if there is a deadline, or if the checker always has an answer. -/
theorem startedChecksEnd (hn : 0 < setup.limits.concurrency)
    (h : setup.limits.deadline ≠ none ∨ ∀ c o n, (setup.checker.call c o n).answer ≠ none) :
    (setup.report earlier t).StartedChecksEnd := by
  have hended : ∀ slot ∈ (setup.final earlier t).slots, slot.isWaiting = false := by
    refine (((stopped_final setup earlier t).ended_or_stuck hn).resolve_right ?_).2
    rintro ⟨i, slot, check, hslot, hcheck, hwake, hdeadline⟩
    obtain ⟨pre, htold⟩ := (invariant_final setup earlier t).told i slot hslot
    have hstory := htold.story
    rw [hcheck] at hstory
    obtain ⟨-, o, -, hconduct⟩ := hstory.checkOf
    rcases h with hset | hanswers
    · rw [hconduct.deadline] at hdeadline
      exact hset (Option.map_eq_none_iff.1 hdeadline)
    · exact hanswers _ _ _ (hconduct.silent hwake)
  rw [report_eq]
  intro m hm hcall i hposition
  have hevent := mem_eventsAt hm hposition
  rw [eventsAt_report] at hevent
  rw [answersAt, eventsAt_report]
  have hbegun : i < (setup.final earlier t).slots.length := by
    by_contra hnot
    have hnone := (invariant_final setup earlier t).unbegun i (Nat.not_lt.1 hnot)
    rw [eventsAt, hnone] at hevent
    exact absurd hevent List.not_mem_nil
  obtain ⟨pre, htold⟩ := (invariant_final setup earlier t).told i _ (List.getElem?_eq_getElem hbegun)
  have haccount := htold.account
  obtain ⟨e, he⟩ := Option.isSome_iff_exists.1
    (isSome_ending?_of_isWaiting_eq_false (hended _ (List.getElem_mem hbegun)))
  obtain ⟨time, hprogress⟩ := exists_progress_eq_ended he
  rw [hprogress] at haccount
  exact haccount.filterMap_answer?_ne_nil hevent hcall

/-! ## The endings of all containers -/

/-- A function that has a value at every member of a list has a list of values. -/
lemma exists_mapM_eq_some {α β : Type} {f : α → Option β} {l : List α}
    (h : ∀ x ∈ l, (f x).isSome = true) : ∃ ys, l.mapM f = some ys := by
  induction l with
  | nil => exact ⟨[], rfl⟩
  | cons x xs ih =>
    obtain ⟨y, hy⟩ := Option.isSome_iff_exists.1 (h x List.mem_cons_self)
    obtain ⟨ys, hys⟩ := ih fun z hz => h z (List.mem_cons_of_mem x hz)
    refine ⟨y :: ys, ?_⟩
    rw [List.mapM_cons, hy, hys]
    rfl

/-- A list of values has the value at each member of the list, in order. -/
lemma map_eq_of_mapM_eq_some {α β : Type} {f : α → Option β} {l : List α} {ys : List β}
    (h : l.mapM f = some ys) : l.map f = ys.map some := by
  induction l generalizing ys with
  | nil =>
    obtain rfl := Option.some.inj h
    rfl
  | cons x xs ih =>
    rw [List.mapM_cons] at h
    obtain ⟨y, hy, hrest⟩ := Option.bind_eq_some_iff.1 h
    obtain ⟨zs, hzs, hpure⟩ := Option.bind_eq_some_iff.1 hrest
    obtain rfl := Option.some.inj hpure
    rw [List.map_cons, List.map_cons, hy, ih hzs]

/-- Each container has an ending among as many endings as there are containers. -/
lemma exists_ending_of_length {containers : List Container} {es : List Ending} {i : Nat} {c : Container}
    (hlength : es.length = containers.length) (hc : containers[i]? = some c) : ∃ e, es[i]? = some e := by
  have hi : i < es.length := hlength ▸ (List.getElem?_eq_some_iff.1 hc).1
  exact ⟨es[i], List.getElem?_eq_getElem hi⟩

/-- A container has come to an ending by what a trace has at its position: there is a story that leads
to it, which began after everything that comes before in the trace. -/
def Concluded (ctx : Context) (earlier : String → Nat) (trace : List Moment) (i : Nat) (c : Container)
    (e : Ending) : Prop :=
  ∃ begun time, ctx.Story (cancelledIn trace) i c begun (earlier c.name + callsIn (before trace i) c.name)
    (cancelledIn (before trace i)) (momentsAt trace i) (.ended time e)

/-- Once no container is left and no check is under way, the report tells endings. -/
lemma exists_endings_of_ended (hqueue : (setup.final earlier t).queue = [])
    (hended : ∀ slot ∈ (setup.final earlier t).slots, slot.isWaiting = false) :
    ∃ es, (setup.report earlier t).endings = some es := by
  obtain ⟨es, hes⟩ := exists_mapM_eq_some (l := (setup.final earlier t).slots)
    fun slot hslot => isSome_ending?_of_isWaiting_eq_false (hended slot hslot)
  refine ⟨es, ?_⟩
  rw [report_eq]
  unfold State.report State.endings?
  rw [hqueue]
  exact hes

/-- Once every check that was called has ended, the report tells endings. -/
theorem exists_endings (hn : 0 < setup.limits.concurrency)
    (hends : (setup.report earlier t).StartedChecksEnd) :
    ∃ es, (setup.report earlier t).endings = some es := by
  obtain ⟨hqueue, hended⟩ := not_isWaiting_final hn hends
  exact exists_endings_of_ended hqueue hended

/-- The endings that a report tells are those of all containers, in their order, and each follows from
what happened to its container. -/
theorem concluded_of_endings_eq_some {es : List Ending}
    (hes : (setup.report earlier t).endings = some es) :
    es.length = t.pod.containers.length ∧
      ∀ i c e, t.pod.containers[i]? = some c → es[i]? = some e →
        (setup.context t.pod).Concluded earlier (setup.report earlier t).trace i c e := by
  have hfinal : (setup.final earlier t).endings? = some es := hes
  unfold State.endings? at hfinal
  obtain ⟨hempty, hmapM⟩ := (Option.ite_none_right_eq_some).1 hfinal
  have hmap := map_eq_of_mapM_eq_some hmapM
  have hcontainers := map_container_final (List.isEmpty_iff.1 hempty)
  refine ⟨?_, fun i c e hc he => ?_⟩
  · have hlength := congrArg List.length hmap
    rw [List.length_map, List.length_map] at hlength
    rw [← hlength, ← hcontainers, List.length_map]
  · rw [← hcontainers, List.getElem?_map] at hc
    obtain ⟨slot, hslot, rfl⟩ := Option.map_eq_some_iff.1 hc
    have hending : slot.ending? = some e := by
      have hget := congrArg (·[i]?) hmap
      simpa [hslot, he] using hget
    obtain ⟨time, hprogress⟩ := exists_progress_eq_ended hending
    obtain ⟨pre, htold⟩ := (invariant_final setup earlier t).told i slot hslot
    obtain ⟨notes, htrace, -⟩ := report_trace_eq t.pod.id (setup.final earlier t)
    have hbefore : before (setup.report earlier t).trace i = pre :=
      htold.before_eq (htrace ▸ List.prefix_append _ notes)
    refine ⟨slot.begun, time, ?_⟩
    rw [hbefore, report_eq, cancelledIn_report, momentsAt_report, ← hprogress]
    exact htold.story

end Context

end Freshness.Sync
