import Freshness.Proofs.Sync.Completion

/-!
# The spans of what happens

The turns of several containers follow one another in any order, and each enters the span of the pod, and within
it the one of its container, and leaves both at its end.  As long as every turn leaves what it has entered, no
turn finds itself within the span of another one.

`AtRest` says this of the course between two steps: no span is entered, and each container that has begun keeps
the span with which it began.  Every step keeps it, so whatever happens at the position of a container happens
within the span of the pod and, within that, the one of this container (`spans_steps`, `spans_report`).
-/

namespace Freshness.Sync

namespace State

/-- Events of a container leave the spans that are entered as they were. -/
@[simp] lemma entered_recordSlot (s : State) (i : Nat) (slot : Slot) (es : List Event) :
    (s.recordSlot i slot es).entered = s.entered := by
  simp [recordSlot, record, enter, leave]

end State

namespace Context

variable {ctx : Context} {c : Container}

/-- The spans of the work on a container of a pod, the outermost first. -/
def spansOf (ctx : Context) (c : Container) : List Log.Span := [Log.podSpan ctx.pod, Log.containerSpan c.name]

/-- Between two steps no span is entered, the work on the pod has the span of the pod, and each container that has
begun has its own. -/
structure AtRest (ctx : Context) (s : State) : Prop where
  entered : s.entered = []
  pod : s.span = Log.podSpan ctx.pod
  slots : ∀ slot ∈ s.slots, slot.span = Log.containerSpan slot.container.name

/-- What happens at the position of a container happens within the spans of this container. -/
def InSpans (ctx : Context) (containers : List Container) (m : Moment) : Prop :=
  ∀ i c, m.position = some i → containers[i]? = some c → m.spans = ctx.spansOf c

/-! ## Steps -/

variable {earlier : String → Nat} {containers : List Container} {s s' : State} {slot : Slot}

/-- The spans that are entered for a turn are those of its container. -/
lemma AtRest.spansFor_eq (h : ctx.AtRest s) (hslot : slot.span = Log.containerSpan slot.container.name) :
    s.spansFor slot = ctx.spansOf slot.container := by
  unfold State.spansFor
  rw [h.entered, h.pod, hslot]
  rfl

/-- A turn of a container leaves the course at rest. -/
lemma AtRest.turn (h : ctx.AtRest s) {time i : Nat} (hslot : s.slots[i]? = some slot) (t : Turn) :
    ctx.AtRest (State.turn { s with now := time } i slot t) where
  entered := (State.entered_recordSlot { s with now := time } i slot t.events).trans h.entered
  pod := h.pod
  slots := by
    intro slot' hmem
    rcases List.mem_or_eq_of_mem_set hmem with hold | rfl
    · exact h.slots slot' hold
    · exact h.slots slot (List.mem_of_getElem? hslot)

/-- The beginning of the next container leaves the course at rest. -/
lemma AtRest.begin (h : ctx.AtRest s) (rest : List Container) : ctx.AtRest (ctx.beginNext earlier s c rest) where
  entered := (State.entered_recordSlot s _ _ _).trans h.entered
  pod := h.pod
  slots := by
    intro slot' hmem
    rcases List.mem_append.1 hmem with hold | hnew
    · exact h.slots slot' hold
    · obtain rfl := List.mem_singleton.1 hnew
      rfl

/-- Every step leaves the course at rest. -/
lemma AtRest.step (h : ctx.AtRest s) (hstep : ctx.Step earlier s s') : ctx.AtRest s' := by
  rcases hstep.cases_turn with ⟨time, rfl⟩ | ⟨c, rest, -, rfl⟩ | ⟨time, i, slot, check, t, hslot, -, -, rfl⟩
  · exact ⟨h.entered, h.pod, h.slots⟩
  · exact h.begin rest
  · exact h.turn hslot t

/-- The turn of a container at its position happens within the spans of this container. -/
lemma inSpans_moments {i : Nat} (hc : containers[i]? = some c) (t : Turn) (time : Nat) :
    ∀ m ∈ t.moments time i (ctx.spansOf c), ctx.InSpans containers m := by
  intro m hm j d hj hd
  obtain ⟨e, -, rfl⟩ := List.mem_map.1 hm
  obtain rfl := Option.some.inj hj
  obtain rfl := Option.some.inj (hc.symm.trans hd)
  rfl

/-- In every step what happens to a container happens within its spans. -/
lemma inSpans_step (hinv : ctx.Invariant earlier containers s) (hrest : ctx.AtRest s)
    (h : ∀ m ∈ s.trace, ctx.InSpans containers m) (hstep : ctx.Step earlier s s') :
    ∀ m ∈ s'.trace, ctx.InSpans containers m := by
  rcases hstep.cases_turn with ⟨time, rfl⟩ | ⟨c, rest, hqueue, rfl⟩ |
    ⟨time, i, slot, check, t, hslot, -, -, rfl⟩
  · exact List.forall_mem_append.2 ⟨h, List.forall_mem_singleton.2 fun i c hi _ => by cases hi⟩
  · have hown : (ctx.firstSlot earlier s c).span = Log.containerSpan c.name := rfl
    have hspans : s.spansFor (ctx.firstSlot earlier s c) = ctx.spansOf c := hrest.spansFor_eq hown
    rw [trace_beginNext, hspans]
    exact List.forall_mem_append.2 ⟨h, inSpans_moments (hinv.getElem?_of_queue hqueue) _ _⟩
  · have hspans : State.spansFor { s with now := time } slot = ctx.spansOf slot.container :=
      hrest.spansFor_eq (hrest.slots slot (List.mem_of_getElem? hslot))
    rw [State.trace_turn, hspans]
    exact List.forall_mem_append.2 ⟨h, inSpans_moments (hinv.getElem?_of_slot hslot) _ _⟩

/-! ## Runs -/

/-- The course on a pod starts at rest. -/
lemma atRest_start (t : Task) (hpod : t.pod.id = ctx.pod) : ctx.AtRest t.start where
  entered := rfl
  pod := congrArg Log.podSpan hpod
  slots _ hslot := absurd hslot List.not_mem_nil

/-- At every point of the course it is at rest, and what has happened to a container has happened within its
spans. -/
theorem spans_steps (earlier : String → Nat) (t : Task) (hpod : t.pod.id = ctx.pod) (n : Nat) :
    ctx.AtRest (ctx.steps earlier n t.start) ∧
      ∀ m ∈ (ctx.steps earlier n t.start).trace, ctx.InSpans t.pod.containers m := by
  refine (steps_invariant
    (P := fun s => ctx.Invariant earlier t.pod.containers s ∧ ctx.AtRest s ∧
      ∀ m ∈ s.trace, ctx.InSpans t.pod.containers m)
    ⟨invariant_start t, atRest_start t hpod, fun m hm i c hi _ => ?_⟩
    (fun h hstep => ⟨h.1.step hstep, h.2.1.step hstep, inSpans_step h.1 h.2.1 h.2.2 hstep⟩) n).2
  rw [(position_of_mem_trace_start hm).1] at hi
  cases hi

/-! ## Reports -/

variable {setup : Setup} {t : Task}

/-- The course on a pod ends at rest. -/
lemma atRest_final (setup : Setup) (earlier : String → Nat) (t : Task) :
    (setup.context t.pod).AtRest (setup.final earlier t) :=
  (spans_steps earlier t rfl _).1

/-- What a report that tells endings adds to the course: the end of the pod, within the span of the pod alone. -/
lemma trace_report_of_endings {es : List Ending} (hes : (setup.report earlier t).endings = some es) :
    (setup.report earlier t).trace = (setup.final earlier t).trace ++
      (closing t.pod.id (setup.final earlier t).now es).map
        fun ev => ⟨(setup.final earlier t).now, none, [Log.podSpan t.pod.id], ev⟩ := by
  have hfinal : (setup.final earlier t).endings? = some es := hes
  have hrest := atRest_final setup earlier t
  have hspan : (setup.final earlier t).span = Log.podSpan t.pod.id := hrest.pod
  rw [report_eq, State.report, State.trace_recordPod, hrest.entered, hspan, hfinal]
  rfl

/-- A report that tells no endings adds nothing to the course. -/
lemma trace_report_of_endings_eq_none (hes : (setup.report earlier t).endings = none) :
    (setup.report earlier t).trace = (setup.final earlier t).trace := by
  have hfinal : (setup.final earlier t).endings? = none := hes
  rw [report_eq, State.report, State.trace_recordPod, hfinal]
  exact List.append_nil _

/-- What stands in a report stands in the course, or belongs to the end of the pod, within the span of the pod
alone. -/
lemma mem_trace_report {m : Moment} (hm : m ∈ (setup.report earlier t).trace) :
    m ∈ (setup.final earlier t).trace ∨
      ∃ es, (setup.report earlier t).endings = some es ∧
        ∃ ev ∈ closing t.pod.id (setup.final earlier t).now es,
          m = ⟨(setup.final earlier t).now, none, [Log.podSpan t.pod.id], ev⟩ := by
  cases hes : (setup.report earlier t).endings with
  | none =>
    rw [trace_report_of_endings_eq_none hes] at hm
    exact .inl hm
  | some es =>
    rw [trace_report_of_endings hes] at hm
    rcases List.mem_append.1 hm with hcourse | hnote
    · exact .inl hcourse
    · obtain ⟨ev, hev, rfl⟩ := List.mem_map.1 hnote
      exact .inr ⟨es, rfl, ev, hev, rfl⟩

/-- Everything in a report that happens to a container happens within the spans of this container. -/
theorem spans_report (setup : Setup) (earlier : String → Nat) (t : Task) :
    ∀ m ∈ (setup.report earlier t).trace, (setup.context t.pod).InSpans t.pod.containers m := by
  intro m hm
  rcases mem_trace_report hm with hcourse | ⟨es, -, ev, -, rfl⟩
  · exact (spans_steps earlier t rfl _).2 m hcourse
  · exact fun i c hi _ => by cases hi

end Context

end Freshness.Sync
