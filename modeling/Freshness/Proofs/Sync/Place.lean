import Freshness.Proofs.Sync.Spans

/-!
# Everything in its place

The checks of several containers go on at the same time, with one resolver, one checker and one store.  What
happens to a container is nevertheless its own: it names this container and its place in the store, and calls
the checker with the options of this container.  `Own` lists what a container can make
happen, and each turn of it makes only such events (`own_start`, `Resumes.own`).

So everything in the trace is in its place (`inPlace_steps`): what stands at a position is the own of the
container there, and what stands at no position is the making of a resolver or a cancellation from outside.
-/

namespace Freshness.Sync

namespace Context

/-- What can happen to a container. -/
inductive Own (ctx : Context) (c : Container) : Event → Prop where
  | enablementAsked (answer : Bool) : Own ctx c (.enablementAsked c.name ctx.limits.checkByDefault answer)
  | optionsAsked : Own ctx c (.optionsAsked c.name)
  | checkCalled {o : Options} (hoptions : ctx.resolver.options c.name = .ok o) :
      Own ctx c (.checkCalled c o)
  | cancelled : Own ctx c .cancelled
  | replied : Own ctx c (.replied c.name)
  | checkEnded (a : Answer) : Own ctx c (.checkEnded a)
  | changed {change : Store.Change} (hkey : change.key = ctx.key c) : Own ctx c (.changed change)
  | counted (o : Outcome) : Own ctx c (.counted (.container o))
  | logged (r : Log.Record) : Own ctx c (.logged r)

/-- A moment is in its place: it happens to the pod as a whole before any container begins or from outside, or
it is the own of the container at its position. -/
def InPlace (ctx : Context) (a : Annotations) (containers : List Container) (m : Moment) : Prop :=
  m.position = none ∧ (m.event = .cancelled ∨ m.event = .resolverMade a) ∨
    ∃ i c, m.position = some i ∧ containers[i]? = some c ∧ ctx.Own c m.event

variable {ctx : Context} {c : Container} {o : Options}

/-! ## Turns -/

/-- What comes with an ending is the container's own. -/
lemma own_endingEvents (c : Container) (e : Ending) : ∀ ev ∈ ctx.endingEvents c e, ctx.Own c ev := by
  refine List.forall_mem_append.2 ⟨?_, List.forall_mem_singleton.2 (.counted _)⟩
  cases e with
  | recorded v => exact List.forall_mem_cons.2 ⟨.logged _, List.forall_mem_singleton.2 (.changed rfl)⟩
  | pending => exact List.forall_mem_singleton.2 (.logged _)
  | disabled => exact List.forall_mem_cons.2 ⟨.logged _, List.forall_mem_singleton.2 (.changed rfl)⟩
  | noVersionFound f => exact List.forall_mem_singleton.2 (.logged _)
  | failed f => exact List.forall_mem_nil _

/-- Settling a check is the container's own. -/
lemma own_settle (time : Nat) (c : Container) (a : Answer) :
    ∀ ev ∈ (ctx.settle time c a).events, ctx.Own c ev :=
  List.forall_mem_cons.2 ⟨.checkEnded a, own_endingEvents c (endingOf c a)⟩

/-- Going on waiting is the container's own. -/
lemma own_await (time : Nat) (c : Container) (check : Check) :
    ∀ ev ∈ (ctx.await time c check).events, ctx.Own c ev := by
  unfold await
  split
  · exact own_settle time c _
  · exact List.forall_mem_nil _

/-- The cancelling of the work by a check is the container's own. -/
lemma own_cancelling (c : Container) (cancels : Bool) : ∀ ev ∈ cancelling cancels, ctx.Own c ev := by
  cases cancels with
  | false => exact List.forall_mem_nil _
  | true => exact List.forall_mem_singleton.2 .cancelled

/-- The end of waiting is the container's own. -/
lemma own_conclude (time : Nat) (c : Container) (check : Check) :
    ∀ ev ∈ (ctx.conclude time c check).events, ctx.Own c ev := by
  have hreplied : ∀ ev ∈ cancelling check.conduct.cancelsLast ++ [.replied c.name], ctx.Own c ev :=
    List.forall_mem_append.2 ⟨own_cancelling c _, List.forall_mem_singleton.2 .replied⟩
  refine List.forall_mem_append.2 ⟨hreplied, ?_⟩
  split
  · exact own_settle time c _
  · exact own_await time c _

/-- The call of a check is the container's own. -/
lemma own_callCheck (time n : Nat) (hoptions : ctx.resolver.options c.name = .ok o) :
    ∀ ev ∈ (ctx.callCheck time c o n).events, ctx.Own c ev := by
  have hcalled : ∀ ev ∈ .checkCalled c o :: cancelling (ctx.checker.call c o n).cancelsFirst,
      ctx.Own c ev :=
    List.forall_mem_cons.2 ⟨.checkCalled hoptions, own_cancelling c _⟩
  refine List.forall_mem_append.2 ⟨hcalled, ?_⟩
  split
  · exact own_conclude time c _
  · exact own_await time c _

/-- What opens the work on a container is the container's own. -/
lemma own_opening (c : Container) : ∀ ev ∈ ctx.opening c, ctx.Own c ev :=
  List.forall_mem_cons.2 ⟨.enablementAsked true,
    List.forall_mem_cons.2 ⟨.optionsAsked, List.forall_mem_singleton.2 (.logged _)⟩⟩

/-- All that happens when a container begins is its own. -/
lemma own_start (time : Nat) (cancelled : Bool) (n : Nat) (c : Container) :
    ∀ ev ∈ (ctx.start time cancelled n c).events, ctx.Own c ev := by
  cases henabled : ctx.resolver.isEnabled ctx.limits.checkByDefault c.name with
  | false =>
    rw [start_of_isEnabled_eq_false time cancelled n henabled]
    exact List.forall_mem_cons.2 ⟨.enablementAsked false, own_endingEvents c .disabled⟩
  | true =>
    cases hoptions : ctx.resolver.options c.name with
    | error issues =>
      rw [start_of_options_eq_error time cancelled n henabled hoptions]
      have hasked : ∀ ev ∈ [Event.enablementAsked c.name ctx.limits.checkByDefault true,
          .optionsAsked c.name], ctx.Own c ev :=
        List.forall_mem_cons.2 ⟨.enablementAsked true, List.forall_mem_singleton.2 .optionsAsked⟩
      exact List.forall_mem_append.2
        ⟨hasked, own_endingEvents c (.failed (.configuration c.name issues))⟩
    | ok o =>
      rw [start_of_options_eq_ok time cancelled n henabled hoptions]
      refine List.forall_mem_append.2 ⟨own_opening c, ?_⟩
      unfold check
      split
      · exact own_settle time c _
      · exact own_callCheck time n hoptions

/-- All that happens in a further turn of a container is its own. -/
lemma Resumes.own {cancelled : Bool} {check : Check} {time : Nat} {t : Turn}
    (h : ctx.Resumes cancelled c check time t) : ∀ ev ∈ t.events, ctx.Own c ev := by
  cases h with
  | giveUp _ => exact own_settle time c _
  | wake _ _ => exact own_conclude time c check
  | lapse _ _ => exact own_settle time c _

/-! ## The course -/

variable {a : Annotations} {earlier : String → Nat} {containers : List Container} {s s' : State}

/-- The turn of a container at its position is in its place. -/
lemma inPlace_moments {t : Turn} {i : Nat} (time : Nat) (spans : List Log.Span) (hc : containers[i]? = some c)
    (hown : ∀ ev ∈ t.events, ctx.Own c ev) : ∀ m ∈ t.moments time i spans, ctx.InPlace a containers m := by
  intro m hm
  obtain ⟨ev, hev, rfl⟩ := List.mem_map.1 hm
  exact .inr ⟨i, c, rfl, hc, hown ev hev⟩

/-- Every step leaves everything in its place. -/
lemma inPlace_step (hinv : ctx.Invariant earlier containers s)
    (h : ∀ m ∈ s.trace, ctx.InPlace a containers m) (hstep : ctx.Step earlier s s') :
    ∀ m ∈ s'.trace, ctx.InPlace a containers m := by
  rcases hstep.cases_turn with ⟨time, rfl⟩ | ⟨c, rest, hqueue, rfl⟩ |
    ⟨time, i, slot, check, t, hslot, -, ht, rfl⟩
  · exact List.forall_mem_append.2 ⟨h, List.forall_mem_singleton.2 (.inl ⟨rfl, .inl rfl⟩)⟩
  · exact List.forall_mem_append.2
      ⟨h, inPlace_moments s.now _ (hinv.getElem?_of_queue hqueue) (own_start _ _ _ c)⟩
  · exact List.forall_mem_append.2 ⟨h, inPlace_moments time _ (hinv.getElem?_of_slot hslot) ht.own⟩

/-- At every point of the course everything that has happened is in its place. -/
theorem inPlace_steps (earlier : String → Nat) (t : Task) (n : Nat) :
    ∀ m ∈ (ctx.steps earlier n t.start).trace, ctx.InPlace t.pod.annotations t.pod.containers m :=
  (steps_invariant
    (P := fun s => ctx.Invariant earlier t.pod.containers s ∧
      ∀ m ∈ s.trace, ctx.InPlace t.pod.annotations t.pod.containers m)
    ⟨invariant_start t, fun _ hm => .inl (position_of_mem_trace_start hm)⟩
    (fun h hstep => ⟨h.1.step hstep, inPlace_step h.1 h.2 hstep⟩) n).2

/-! ## Reports -/

variable {setup : Setup} {t : Task} {m : Moment} {i : Nat}

/-- The end of a pod is only noted. -/
lemma isNote_of_mem_closing {pod : PodId} {now : Nat} {es : List Ending} {ev : Event}
    (h : ev ∈ closing pod now es) : ev.isNote = true := by
  rcases List.mem_cons.1 h with rfl | hlog
  · rfl
  · obtain ⟨f, -, rfl⟩ := List.mem_map.1 hlog
    rfl

/-- Everything in a report is in its place, but for the notes at the end of the pod. -/
theorem inPlace_report (setup : Setup) (earlier : String → Nat) (t : Task) :
    ∀ m ∈ (setup.report earlier t).trace,
      (setup.context t.pod).InPlace t.pod.annotations t.pod.containers m ∨
      m.position = none ∧ m.event.isNote = true := by
  intro m hm
  rcases mem_trace_report hm with hcourse | ⟨es, -, ev, hev, rfl⟩
  · exact .inl (inPlace_steps earlier t _ m hcourse)
  · exact .inr ⟨rfl, isNote_of_mem_closing hev⟩

/-- A container of a pod that has begun at the end of the course is told of there; one that has not begun
has nothing at its position. -/
lemma told_or_eventsAt_eq_nil (setup : Setup) (earlier : String → Nat) (t : Task)
    (hc : t.pod.containers[i]? = some c) :
    eventsAt (setup.report earlier t).trace i = [] ∨
      ∃ slot, slot.container = c ∧ (setup.context t.pod).Told earlier (setup.final earlier t) i slot
        (before (setup.report earlier t).trace i) := by
  have hinv := invariant_final setup earlier t
  rw [report_eq]
  cases hslot : (setup.final earlier t).slots[i]? with
  | none =>
    left
    rw [eventsAt_report, eventsAt, hinv.unbegun i (List.getElem?_eq_none_iff.1 hslot)]
    rfl
  | some slot =>
    right
    obtain ⟨pre, htold⟩ := hinv.told i slot hslot
    obtain ⟨notes, htrace, -⟩ := report_trace_eq t.pod.id (setup.final earlier t)
    have hbefore : before ((setup.final earlier t).report t.pod.id).trace i = pre :=
      htold.before_eq (htrace ▸ List.prefix_append _ notes)
    refine ⟨slot, ?_, hbefore ▸ htold⟩
    exact Option.some.inj ((hinv.getElem?_of_slot hslot).symm.trans hc)

end Context

end Freshness.Sync
