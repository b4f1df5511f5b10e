import Freshness.Proofs.Sync.Account
import Freshness.Sync

/-!
# What happens to one container

The trace of the work on a pod interleaves what happens to its containers.  `momentsAt` picks out what
happens to the container at one position.  `Story` says how these moments come about: a beginning, and
after it the further turns of a check, each at its time, for its reason and within some spans.
`Context.Invariant` states that at every point of the course every container that has begun has a story, and
that nothing has happened to the others; `invariant_steps` shows it for every run.  Whatever its times, a story
comes to an account (`Story.account`).
-/

namespace Freshness.Sync

/-- What happens to the container at a position. -/
def momentsAt (trace : List Moment) (i : Nat) : List Moment := trace.filter (·.position == some i)

/-- The events that happen to the container at a position. -/
def eventsAt (trace : List Moment) (i : Nat) : List Event := (momentsAt trace i).map (·.event)

/-- Whether the work on a pod is cancelled in a part of the trace. -/
def cancelledIn (trace : List Moment) : Bool := trace.any (·.event.isCancellation)

/-- The number of calls of checks for containers of a name in a part of the trace. -/
def callsIn (trace : List Moment) (name : String) : Nat := trace.countP (·.event.isCallFor name)

/-- A turn of the container at a position, as moments within spans. -/
def Turn.moments (t : Turn) (time i : Nat) (spans : List Log.Span) : List Moment :=
  t.events.map fun e => ⟨time, some i, spans, e⟩

/-- The spans that are entered for a turn in a slot. -/
def State.spansFor (s : State) (slot : Slot) : List Log.Span := s.entered ++ [s.span] ++ [slot.span]

/-! ## Moments -/

lemma momentsAt_append (l m : List Moment) (i : Nat) :
    momentsAt (l ++ m) i = momentsAt l i ++ momentsAt m i := List.filter_append ..

/-- A turn happens to its own container. -/
lemma momentsAt_moments_self (t : Turn) (time i : Nat) (spans : List Log.Span) :
    momentsAt (t.moments time i spans) i = t.moments time i spans := by
  refine List.filter_eq_self.2 fun m hm => ?_
  obtain ⟨e, -, rfl⟩ := List.mem_map.1 hm
  exact beq_self_eq_true _

/-- A turn does not happen to other containers. -/
lemma momentsAt_moments_of_ne (t : Turn) (time : Nat) (spans : List Log.Span) {i j : Nat} (h : i ≠ j) :
    momentsAt (t.moments time i spans) j = [] := by
  refine List.filter_eq_nil_iff.2 fun m hm => ?_
  obtain ⟨e, -, rfl⟩ := List.mem_map.1 hm
  simpa using h

/-- What happens to the pod as a whole happens to none of its containers. -/
lemma momentsAt_of_position_eq_none {l : List Moment} (h : ∀ m ∈ l, m.position = none) (i : Nat) :
    momentsAt l i = [] := by
  refine List.filter_eq_nil_iff.2 fun m hm => ?_
  rw [h m hm]
  exact Bool.false_ne_true

/-- The events of a turn are those of its moments. -/
@[simp] lemma map_event_moments (t : Turn) (time i : Nat) (spans : List Log.Span) :
    (t.moments time i spans).map (·.event) = t.events := by
  simp [Turn.moments, Function.comp_def]

namespace State

@[simp] lemma trace_turn (s : State) (i : Nat) (slot : Slot) (t : Turn) :
    (s.turn i slot t).trace = s.trace ++ t.moments s.now i (s.spansFor slot) := rfl

@[simp] lemma slots_turn (s : State) (i : Nat) (slot : Slot) (t : Turn) :
    (s.turn i slot t).slots = s.slots.set i { slot with progress := t.progress } := rfl

@[simp] lemma queue_turn (s : State) (i : Nat) (slot : Slot) (t : Turn) :
    (s.turn i slot t).queue = s.queue := rfl

/-- After a turn of a container its slot has the progress of the turn, and every other slot is as it was. -/
lemma slot_of_turn {s : State} {i j : Nat} {slot slot' : Slot} {t : Turn} (hslot : s.slots[i]? = some slot)
    (h : (s.turn i slot t).slots[j]? = some slot') :
    (j = i ∧ slot' = { slot with progress := t.progress }) ∨ (j ≠ i ∧ s.slots[j]? = some slot') := by
  rw [slots_turn] at h
  by_cases hij : i = j
  · subst hij
    rw [List.getElem?_set_self (List.getElem?_eq_some_iff.1 hslot).1] at h
    exact .inl ⟨rfl, (Option.some.inj h).symm⟩
  · rw [List.getElem?_set_ne hij] at h
    exact .inr ⟨Ne.symm hij, h⟩

end State

namespace Context

variable {ctx : Context} {earlier : String → Nat} {s s' : State} {c : Container}

/-- The turn with which a container begins in a state. -/
def firstTurn (ctx : Context) (earlier : String → Nat) (s : State) (c : Container) : Turn :=
  ctx.start s.now s.cancelled (earlier c.name + s.callsFor c.name) c

/-- The slot of a container that begins. -/
def firstSlot (ctx : Context) (earlier : String → Nat) (s : State) (c : Container) : Slot :=
  ⟨c, Log.containerSpan c.name, s.now, (ctx.firstTurn earlier s c).progress⟩

@[simp] lemma container_firstSlot (s : State) (c : Container) :
    (ctx.firstSlot earlier s c).container = c := rfl

@[simp] lemma trace_beginNext (s : State) (c : Container) (rest : List Container) :
    (ctx.beginNext earlier s c rest).trace = s.trace ++
      (ctx.firstTurn earlier s c).moments s.now s.slots.length (s.spansFor (ctx.firstSlot earlier s c)) := rfl

@[simp] lemma slots_beginNext (s : State) (c : Container) (rest : List Container) :
    (ctx.beginNext earlier s c rest).slots =
      s.slots ++ [ctx.firstSlot earlier s c] := rfl

@[simp] lemma queue_beginNext (s : State) (c : Container) (rest : List Container) :
    (ctx.beginNext earlier s c rest).queue = rest := rfl

/-- After the next container has begun its slot is the last one, and every other slot is as it was. -/
lemma slot_of_beginNext {rest : List Container} {j : Nat} {slot : Slot}
    (h : (ctx.beginNext earlier s c rest).slots[j]? = some slot) :
    (j = s.slots.length ∧ slot = ctx.firstSlot earlier s c) ∨ (j < s.slots.length ∧ s.slots[j]? = some slot) := by
  rw [slots_beginNext] at h
  rcases Nat.lt_trichotomy j s.slots.length with hj | rfl | hj
  · rw [List.getElem?_append_left hj] at h
    exact .inr ⟨hj, h⟩
  · rw [List.getElem?_concat_length] at h
    exact .inl ⟨rfl, (Option.some.inj h).symm⟩
  · rw [List.getElem?_eq_none (by simp; omega)] at h
    cases h

/-! ## Stories -/

/-- How the moments of a container come about that began at a time: it begins, and as long as its check
is under way it gets further turns.  When it began, `n` calls had been made for its name, and `b` says
whether the work on the pod was cancelled; `cancelled` says whether it is by now. -/
inductive Story (ctx : Context) (cancelled : Bool) (i : Nat) (c : Container) (begun n : Nat) (b : Bool) :
    List Moment → Progress → Prop where
  | begin {spans : List Log.Span} : Story ctx cancelled i c begun n b ((ctx.start begun b n c).moments begun i spans)
      (ctx.start begun b n c).progress
  | resume {ms : List Moment} {check : Check} {time : Nat} {t : Turn} {spans : List Log.Span}
      (h : Story ctx cancelled i c begun n b ms (.waiting check))
      (ht : ctx.Resumes cancelled c check time t) :
      Story ctx cancelled i c begun n b (ms ++ t.moments time i spans) t.progress

/-- What can happen to a check before the work is cancelled can happen after it. -/
lemma Resumes.mono {x y : Bool} {check : Check} {time : Nat} {t : Turn}
    (h : ctx.Resumes x c check time t) (hxy : x = true → y = true) :
    ctx.Resumes y c check time t := by
  cases h with
  | giveUp hcancelled => exact .giveUp (hxy hcancelled)
  | wake hwake hdeadline => exact .wake hwake hdeadline
  | lapse hdeadline hwake => exact .lapse hdeadline hwake

/-- A story stays one when the work is cancelled. -/
lemma Story.mono {x y b : Bool} {i begun n : Nat} {ms : List Moment} {p : Progress}
    (h : ctx.Story x i c begun n b ms p) (hxy : x = true → y = true) :
    ctx.Story y i c begun n b ms p := by
  induction h with
  | begin => exact .begin
  | resume _ ht ih => exact .resume ih (ht.mono hxy)

/-- Every story comes to an account. -/
theorem Story.account {x b : Bool} {i begun n : Nat} {ms : List Moment} {p : Progress}
    (h : ctx.Story x i c begun n b ms p) : ctx.Account c (ms.map (·.event)) p := by
  induction h with
  | begin =>
    rw [map_event_moments]
    exact account_start begun b n c
  | resume _ ht ih =>
    rw [List.map_append, map_event_moments]
    exact ih.append ht.checkTurn

/-! ## Every container has a story -/

/-- The container in a slot began after a first part of the trace, in which nothing happened to it, and
has a story. -/
structure Told (ctx : Context) (earlier : String → Nat) (s : State) (i : Nat) (slot : Slot)
    (pre : List Moment) : Prop where
  fresh : momentsAt pre i = []
  began : ∃ spans, pre ++ (ctx.start slot.begun (cancelledIn pre)
    (earlier slot.container.name + callsIn pre slot.container.name) slot.container).moments slot.begun i spans
      <+: s.trace
  story : ctx.Story s.cancelled i slot.container slot.begun
    (earlier slot.container.name + callsIn pre slot.container.name) (cancelledIn pre)
    (momentsAt s.trace i) slot.progress

/-- At every point of the course on a pod with given containers, those that have begun have a story, and
nothing has happened to the others. -/
structure Invariant (ctx : Context) (earlier : String → Nat) (containers : List Container) (s : State) :
    Prop where
  containers_eq : s.slots.map (·.container) ++ s.queue = containers
  told : ∀ i slot, s.slots[i]? = some slot → ∃ pre, ctx.Told earlier s i slot pre
  unbegun : ∀ i, s.slots.length ≤ i → momentsAt s.trace i = []

/-- What is cancelled stays cancelled as the trace goes on. -/
lemma cancelled_of_trace_eq {ms : List Moment} (h : s'.trace = s.trace ++ ms)
    (hc : s.cancelled = true) : s'.cancelled = true := by
  unfold State.cancelled at hc ⊢
  rw [h, List.any_append, hc, Bool.true_or]

/-- The story of a container goes on unchanged while other things happen. -/
lemma Told.mono {i : Nat} {slot : Slot} {pre ms : List Moment} (h : ctx.Told earlier s i slot pre)
    (htrace : s'.trace = s.trace ++ ms) (hms : momentsAt ms i = []) :
    ctx.Told earlier s' i slot pre where
  fresh := h.fresh
  began := by
    obtain ⟨spans, hbegan⟩ := h.began
    rw [htrace]
    exact ⟨spans, hbegan.trans (List.prefix_append _ _)⟩
  story := by
    rw [htrace, momentsAt_append, hms, List.append_nil]
    exact h.story.mono (cancelled_of_trace_eq htrace)

variable {containers : List Container}

/-- The invariant holds where nothing has happened to a container. -/
lemma invariant_of_slots_eq_nil (hslots : s.slots = []) (hqueue : s.queue = containers)
    (htrace : ∀ m ∈ s.trace, m.position = none) : ctx.Invariant earlier containers s where
  containers_eq := by rw [hslots, hqueue]; rfl
  told i slot h := by rw [hslots] at h; cases h
  unbegun i _ := momentsAt_of_position_eq_none htrace i

/-- A cancellation from outside happens to no container. -/
lemma Invariant.cancel (h : ctx.Invariant earlier containers s) (time : Nat) :
    ctx.Invariant earlier containers
      { (State.record { s with now := time } none [.cancelled]) with cancelAt := none } := by
  have htrace : ({ (State.record { s with now := time } none [.cancelled]) with
      cancelAt := none } : State).trace = s.trace ++ [⟨time, none, s.entered, .cancelled⟩] := rfl
  have hpod : ∀ i, momentsAt [(⟨time, none, s.entered, .cancelled⟩ : Moment)] i = [] :=
    momentsAt_of_position_eq_none (by simp)
  refine ⟨h.containers_eq, fun i slot hslot => ?_, fun i hi => ?_⟩
  · obtain ⟨pre, htold⟩ := h.told i slot hslot
    exact ⟨pre, htold.mono htrace (hpod i)⟩
  · rw [htrace, momentsAt_append, hpod i, List.append_nil]
    exact h.unbegun i hi

/-- When the next container begins, so does its story. -/
lemma Invariant.begin (h : ctx.Invariant earlier containers s) {c : Container}
    {rest : List Container} (hqueue : s.queue = c :: rest) :
    ctx.Invariant earlier containers (ctx.beginNext earlier s c rest) := by
  have htrace : (ctx.beginNext earlier s c rest).trace = s.trace ++
      (ctx.firstTurn earlier s c).moments s.now s.slots.length (s.spansFor (ctx.firstSlot earlier s c)) := rfl
  refine ⟨?_, fun i slot hslot => ?_, fun i hi => ?_⟩
  · rw [← h.containers_eq, hqueue, slots_beginNext, queue_beginNext, List.map_append]
    simp
  · rcases slot_of_beginNext hslot with ⟨rfl, rfl⟩ | ⟨hi, hold⟩
    · have hfresh : momentsAt s.trace s.slots.length = [] := h.unbegun _ (Nat.le_refl _)
      refine ⟨s.trace, hfresh, ?_, ?_⟩
      · rw [htrace]
        exact ⟨_, List.prefix_rfl⟩
      · rw [htrace, momentsAt_append, hfresh, List.nil_append, momentsAt_moments_self]
        exact .begin
    · obtain ⟨pre, htold⟩ := h.told i slot hold
      exact ⟨pre, htold.mono htrace (momentsAt_moments_of_ne _ _ _ (by omega))⟩
  · rw [slots_beginNext, List.length_append, List.length_singleton] at hi
    rw [htrace, momentsAt_append, h.unbegun i (by omega), momentsAt_moments_of_ne _ _ _ (by omega)]
    rfl

/-- A turn leaves the containers in the slots as they are. -/
lemma map_container_set {slots : List Slot} {i : Nat} {slot : Slot} (h : slots[i]? = some slot)
    (p : Progress) :
    (slots.set i { slot with progress := p }).map (·.container) = slots.map (·.container) := by
  obtain ⟨hi, hget⟩ := List.getElem?_eq_some_iff.1 h
  have hlength : i < (slots.map (·.container)).length := by rwa [List.length_map]
  have hcontainer : (slots.map (·.container))[i] = slot.container := by rw [List.getElem_map, hget]
  rw [List.map_set, ← hcontainer, List.set_getElem_self]

/-- A turn of a check that is under way continues the story of its container. -/
lemma Invariant.turn (h : ctx.Invariant earlier containers s) {time i : Nat} {slot : Slot}
    {check : Check} {t : Turn} (hslot : s.slots[i]? = some slot)
    (hcheck : slot.progress = .waiting check)
    (ht : ctx.Resumes s.cancelled slot.container check time t) :
    ctx.Invariant earlier containers (State.turn { s with now := time } i slot t) := by
  have htrace : (State.turn { s with now := time } i slot t).trace =
      s.trace ++ t.moments time i (s.spansFor slot) := rfl
  have hi : i < s.slots.length := (List.getElem?_eq_some_iff.1 hslot).1
  refine ⟨?_, fun j slot' hslot' => ?_, fun j hj => ?_⟩
  · rw [State.slots_turn, State.queue_turn, ← h.containers_eq, map_container_set hslot]
  · rcases State.slot_of_turn (s := { s with now := time }) hslot hslot' with ⟨rfl, rfl⟩ | ⟨hji, hold⟩
    · obtain ⟨pre, hfresh, ⟨spans, hbegan⟩, hstory⟩ := h.told j slot hslot
      have hmono := cancelled_of_trace_eq htrace
      refine ⟨pre, hfresh, ?_, ?_⟩
      · rw [htrace]
        exact ⟨spans, hbegan.trans (List.prefix_append _ _)⟩
      · rw [hcheck] at hstory
        rw [htrace, momentsAt_append, momentsAt_moments_self]
        exact .resume (hstory.mono hmono) (ht.mono hmono)
    · obtain ⟨pre, htold⟩ := h.told j slot' hold
      exact ⟨pre, htold.mono htrace (momentsAt_moments_of_ne _ _ _ hji.symm)⟩
  · rw [State.slots_turn, List.length_set] at hj
    have hij : i ≠ j := fun heq => absurd (heq ▸ hi) (Nat.not_lt.2 hj)
    rw [htrace, momentsAt_append, h.unbegun j hj, momentsAt_moments_of_ne _ _ _ hij]
    rfl

/-- Every step keeps the invariant. -/
theorem Invariant.step (h : ctx.Invariant earlier containers s) (hstep : ctx.Step earlier s s') :
    ctx.Invariant earlier containers s' := by
  rcases hstep.cases_turn with ⟨time, rfl⟩ | ⟨c, rest, hqueue, rfl⟩ |
    ⟨time, i, slot, check, t, hslot, hcheck, ht, rfl⟩
  · exact h.cancel time
  · exact h.begin hqueue
  · exact h.turn hslot hcheck ht

/-- What stands in the trace at the start happened to the pod as a whole. -/
lemma position_of_mem_trace_start {t : Task} {m : Moment} (h : m ∈ t.start.trace) :
    m.position = none ∧ (m.event = .cancelled ∨ m.event = .resolverMade t.pod.annotations) := by
  rw [Task.start, State.trace_recordPod] at h
  rcases List.mem_append.1 h with hcancelled | hmade
  · unfold Task.initial at hcancelled
    cases hc : t.cancellation with
    | none => simp [hc] at hcancelled
    | some k => cases k <;> simp_all
  · rw [List.mem_singleton.1 hmade]
    exact ⟨rfl, .inr rfl⟩

/-- The course on a pod starts where nothing has happened to its containers. -/
lemma invariant_start (t : Task) : ctx.Invariant earlier t.pod.containers t.start :=
  invariant_of_slots_eq_nil rfl rfl fun _ hm => (position_of_mem_trace_start hm).1

/-- After any number of steps every container that has begun has a story. -/
theorem invariant_steps (earlier : String → Nat) (t : Task) (n : Nat) :
    ctx.Invariant earlier t.pod.containers (ctx.steps earlier n t.start) :=
  steps_invariant (invariant_start t) (fun h hstep => h.step hstep) n

end Context

end Freshness.Sync
