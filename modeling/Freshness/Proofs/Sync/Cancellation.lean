import Freshness.Proofs.Sync.Calls
import Freshness.Proofs.Sync.LastWord

/-!
# After the work on a pod is cancelled

The moment at which the work on a pod is cancelled divides its trace.  After it no checker is called, and
the checks that still end are given up: each ends as cancelled.  The one exception is a check that has
cancelled the work itself: it ends with its last word.  `AfterCancellation` says this of a trace.

A check that has cancelled the work may still be under way after its turn, so `Subsides` says besides that each
check that is under way is to be given up by what is known of it.  Every step keeps this, before the
cancellation, in it and after it, and `afterCancellation_steps` has it at every point of the course.
-/

namespace Freshness.Sync

/-- The moment at which the work on a pod is cancelled. -/
def cancellation? (trace : List Moment) : Option Moment := trace.find? (·.event.isCancellation)

/-- What happened before the work on a pod was cancelled. -/
def untilCancelled (trace : List Moment) : List Moment := trace.takeWhile (!·.event.isCancellation)

/-- What happened after the work on a pod was cancelled. -/
def sinceCancelled (trace : List Moment) : List Moment :=
  (trace.dropWhile (!·.event.isCancellation)).tail

/-! ## Dividing a trace -/

/-- The moment of the cancellation stands between what happened before and what happened after. -/
lemma eq_append_of_cancellation? {trace : List Moment} {m : Moment} (h : cancellation? trace = some m) :
    m.event.isCancellation = true ∧ trace = untilCancelled trace ++ m :: sinceCancelled trace := by
  obtain ⟨hm, pre, post, rfl, hpre⟩ := List.find?_eq_some_iff_append.1 h
  refine ⟨hm, ?_⟩
  unfold untilCancelled sinceCancelled
  rw [List.takeWhile_append_of_pos hpre, List.dropWhile_append_of_pos hpre,
    List.takeWhile_cons_of_neg (by simp [hm]), List.dropWhile_cons_of_neg (by simp [hm]), List.append_nil,
    List.tail_cons]

/-- Where nothing is cancelled there is no such moment. -/
lemma cancellation?_eq_none {l : List Moment} (h : cancelledIn l = false) : cancellation? l = none := by
  refine List.find?_eq_none.2 fun m hm hcancel => ?_
  have hany : cancelledIn l = true := List.any_eq_true.2 ⟨m, hm, hcancel⟩
  rw [h] at hany
  cases hany

/-- A cancelled trace has such a moment. -/
lemma exists_cancellation? {l : List Moment} (h : cancelledIn l = true) : ∃ m, cancellation? l = some m := by
  obtain ⟨m, hm, hcancel⟩ := List.any_eq_true.1 h
  exact Option.isSome_iff_exists.1 (List.find?_isSome.2 ⟨m, hm, hcancel⟩)

/-- The first part of a trace decides when it is cancelled, if it is cancelled in it. -/
lemma cancellation?_append_of_cancelled {l : List Moment} (h : cancelledIn l = true) (l' : List Moment) :
    cancellation? (l ++ l') = cancellation? l := by
  obtain ⟨m, hm⟩ := exists_cancellation? h
  unfold cancellation? at hm ⊢
  rw [List.find?_append, hm, Option.some_or]

/-- What comes later comes after the cancellation. -/
lemma sinceCancelled_append_of_cancelled {l : List Moment} (h : cancelledIn l = true) (l' : List Moment) :
    sinceCancelled (l ++ l') = sinceCancelled l ++ l' := by
  obtain ⟨m, hm⟩ := exists_cancellation? h
  obtain ⟨hcancel, pre, post, rfl, hpre⟩ := List.find?_eq_some_iff_append.1 hm
  unfold sinceCancelled
  rw [List.append_assoc, List.dropWhile_append_of_pos hpre, List.dropWhile_append_of_pos hpre,
    List.cons_append, List.dropWhile_cons_of_neg (by simp [hcancel]),
    List.dropWhile_cons_of_neg (by simp [hcancel])]
  rfl

/-- What comes before the cancellation does not change when it is. -/
lemma cancellation?_append_of_not_cancelled {l : List Moment} (h : cancelledIn l = false)
    (l' : List Moment) : cancellation? (l ++ l') = cancellation? l' := by
  have hnone := cancellation?_eq_none h
  unfold cancellation? at hnone ⊢
  rw [List.find?_append, hnone, Option.none_or]

/-- What comes before the cancellation does not count as coming after it. -/
lemma sinceCancelled_append_of_not_cancelled {l : List Moment} (h : cancelledIn l = false)
    (l' : List Moment) : sinceCancelled (l ++ l') = sinceCancelled l' := by
  have hpass : ∀ m ∈ l, (!m.event.isCancellation) = true := by
    intro m hm
    have hnone := List.find?_eq_none.1 (cancellation?_eq_none h) m hm
    rw [Bool.not_eq_true', ← Bool.not_eq_true]
    exact hnone
  unfold sinceCancelled
  rw [List.dropWhile_append_of_pos hpass]

/-- What comes after the cancellation is part of the trace. -/
lemma mem_of_mem_sinceCancelled {l : List Moment} {p : Moment} (h : p ∈ sinceCancelled l) : p ∈ l :=
  (List.dropWhile_suffix _).subset (List.mem_of_mem_tail h)

/-- What comes after a cancellation in the second part of a trace is in the second part. -/
lemma mem_of_mem_sinceCancelled_append {l l' : List Moment} {p : Moment} (h : cancelledIn l = false)
    (hp : p ∈ sinceCancelled (l ++ l')) : p ∈ l' := by
  rw [sinceCancelled_append_of_not_cancelled h] at hp
  exact mem_of_mem_sinceCancelled hp

/-- Nothing is cancelled in events none of which cancels. -/
lemma cancelledIn_map_eq_false {es : List Event} (h : .cancelled ∉ es) (time i : Nat) (spans : List Log.Span) :
    cancelledIn (es.map fun e => ⟨time, some i, spans, e⟩) = false := by
  refine List.any_eq_false.2 fun m hm hcancel => ?_
  obtain ⟨e, he, rfl⟩ := List.mem_map.1 hm
  cases e <;> simp_all [Event.isCancellation]

/-- The moment of a cancellation in a turn is one of the turn. -/
lemma of_cancellation?_moments {t : Turn} {time i : Nat} {spans : List Log.Span} {m : Moment}
    (h : cancellation? (t.moments time i spans) = some m) :
    m.time = time ∧ m.position = some i ∧ .cancelled ∈ t.events := by
  have hcancel : m.event.isCancellation = true := (eq_append_of_cancellation? h).1
  obtain ⟨e, he, rfl⟩ := List.mem_map.1 (List.mem_of_find?_eq_some h)
  refine ⟨rfl, rfl, ?_⟩
  cases e <;> simp_all [Event.isCancellation]

namespace Context

variable {ctx : Context} {c : Container} {begun n time : Nat} {o : Options} {a : Answer}

/-- No checker is called in the turn in which a container begins once the work is cancelled in it. -/
lemma calledName?_of_mem_sinceCancelled_start {b : Bool} {i : Nat} {spans : List Log.Span} {p : Moment}
    (hcancel : .cancelled ∈ (ctx.start time b n c).events)
    (hp : p ∈ sinceCancelled ((ctx.start time b n c).moments time i spans)) : p.event.calledName? = none := by
  obtain ⟨-, o, -, hstart, -⟩ := of_cancelled_mem_start hcancel
  obtain ⟨rest, hevents, hrest⟩ := ctx.exists_events_callCheck time c o n
  have hmoments : (ctx.start time b n c).moments time i spans =
      ((ctx.opening c ++ [Event.checkCalled c o]).map fun e => ⟨time, some i, spans, e⟩) ++
        rest.map fun e => ⟨time, some i, spans, e⟩ := by
    rw [hstart, Turn.moments, Turn.after, hevents, ← List.map_append, List.append_assoc]
    rfl
  rw [hmoments] at hp
  have hfirst : .cancelled ∉ ctx.opening c ++ [.checkCalled c o] := by simp [opening]
  obtain ⟨e, he, rfl⟩ :=
    List.mem_map.1 (mem_of_mem_sinceCancelled_append (cancelledIn_map_eq_false hfirst time i spans) hp)
  exact hrest e he

/-! ## The course -/

variable {earlier : String → Nat} {containers : List Container} {s s' : State}

/-- The answer with which the check of the container at a position ends after the cancellation: that it is given
up, or its last word if it has cancelled the work itself. -/
structure AnsweredAfter (ctx : Context) (earlier : String → Nat) (containers : List Container)
    (trace : List Moment) (cancellation : Moment) (i : Nat) (a : Answer) : Prop where
  other : cancellation.position ≠ some i → a = .failed .cancelled
  own : cancellation.position = some i → ∃ c o begun, containers[i]? = some c ∧
    ctx.resolver.options c.name = .ok o ∧ begunAt? trace i = some begun ∧
    a = ctx.lastWord (ctx.checker.call c o (earlier c.name + callsIn (before trace i) c.name)) begun
      cancellation.time

/-- What may happen at a moment after the cancellation: no checker is called, and if a check ends, then with the
answer that is left to it. -/
structure Aftermath (ctx : Context) (earlier : String → Nat) (containers : List Container)
    (trace : List Moment) (cancellation p : Moment) : Prop where
  uncalled : p.event.calledName? = none
  answered : ∀ i a, p.position = some i → p.event = .checkEnded a →
    ctx.AnsweredAfter earlier containers trace cancellation i a

/-- All that happens after the cancellation is what may happen then. -/
def AfterCancellation (ctx : Context) (earlier : String → Nat) (containers : List Container)
    (trace : List Moment) : Prop :=
  ∀ m ∈ cancellation? trace, ∀ p ∈ sinceCancelled trace, ctx.Aftermath earlier containers trace m p

/-- The course subsides once it is cancelled: all that has happened since is what may happen then, and the checks
that are still under way are to be given up. -/
structure Subsides (ctx : Context) (earlier : String → Nat) (containers : List Container) (s : State) : Prop where
  happened : ctx.AfterCancellation earlier containers s.trace
  underWay : ∀ m ∈ cancellation? s.trace, ∀ i slot check, s.slots[i]? = some slot →
    slot.progress = .waiting check → ctx.AnsweredAfter earlier containers s.trace m i (.failed .cancelled)

/-- The answer that is left to a check does not depend on what happens later. -/
lemma AnsweredAfter.mono {part trace : List Moment} {m : Moment} {i : Nat}
    (h : ctx.AnsweredAfter earlier containers part m i a) (htrace : part <+: trace) :
    ctx.AnsweredAfter earlier containers trace m i a := by
  refine ⟨h.other, fun hown => ?_⟩
  obtain ⟨c, o, begun, hc, hoptions, hbegun, hanswer⟩ := h.own hown
  refine ⟨c, o, begun, hc, hoptions, begunAt?_mono htrace hbegun, ?_⟩
  rw [before_eq_of_begunAt? htrace hbegun]
  exact hanswer

/-- What may happen at a moment does not depend on what happens later. -/
lemma Aftermath.mono {part trace : List Moment} {m p : Moment}
    (h : ctx.Aftermath earlier containers part m p) (htrace : part <+: trace) :
    ctx.Aftermath earlier containers trace m p :=
  ⟨h.uncalled, fun i a hi ha => (h.answered i a hi ha).mono htrace⟩

/-- If there is no first check that is under way, then no check is. -/
lemma isWaiting_eq_false_of_firstWaiting? (h : s.firstWaiting? = none) {i : Nat} {slot : Slot}
    (hslot : s.slots[i]? = some slot) : slot.isWaiting = false := by
  have hnone := Option.map_eq_none_iff.1 h
  rw [List.find?_eq_none] at hnone
  exact Bool.eq_false_iff.2 (hnone (slot, i) (List.mk_mem_zipIdx_iff_getElem?.2 hslot))

/-- After the cancellation a step gives up a check, or begins the next container, or cancels the work once
more. -/
lemma Step.cases_of_cancelled (h : ctx.Step earlier s s') (hc : s.cancelled = true) :
    (∃ i slot check, s.slots[i]? = some slot ∧ slot.progress = .waiting check ∧
      s' = s.turn i slot (ctx.settle s.now slot.container (.failed .cancelled))) ∨
    (∃ c rest, s' = ctx.beginNext earlier s c rest) ∨
    ∃ time, s' = { (State.record { s with now := time } none [.cancelled]) with cancelAt := none } := by
  cases h with
  | giveUp _ _ hslot hcheck => exact .inl ⟨_, _, _, hslot, hcheck, rfl⟩
  | begin _ _ _ _ => exact .inr (.inl ⟨_, _, rfl⟩)
  | wake hidle _ hslot hcheck _ _ =>
    have hnot := isWaiting_eq_false_of_firstWaiting? (hidle.quiet hc) hslot
    simp [Slot.isWaiting, Slot.check?, hcheck] at hnot
  | lapse hidle _ hslot hcheck _ _ =>
    have hnot := isWaiting_eq_false_of_firstWaiting? (hidle.quiet hc) hslot
    simp [Slot.isWaiting, Slot.check?, hcheck] at hnot
  | cancel _ _ _ => exact .inr (.inr ⟨_, rfl⟩)

/-- A check that is under way while the work is not cancelled has not cancelled it when it was called. -/
lemma Told.cancelsFirst_eq_false {i : Nat} {slot : Slot} {pre : List Moment}
    (h : ctx.Told earlier s i slot pre) {check : Check} (hcheck : slot.progress = .waiting check)
    (hc : s.cancelled = false) (hoptions : ctx.resolver.options slot.container.name = .ok o) :
    (ctx.checker.call slot.container o
      (earlier slot.container.name + callsIn pre slot.container.name)).cancelsFirst = false := by
  have hstory := h.story
  rw [hcheck] at hstory
  obtain ⟨-, o', hstart, hconduct⟩ := hstory.checkOf
  obtain rfl := Except.ok.inj (hoptions.symm.trans hconduct.options)
  rw [← Bool.not_eq_true]
  intro hfirst
  have hmem : Event.cancelled ∈ (ctx.start slot.begun (cancelledIn pre)
      (earlier slot.container.name + callsIn pre slot.container.name) slot.container).events := by
    rw [hstart]
    refine List.mem_append_right _ (List.mem_append_left _ (List.mem_cons_of_mem _ ?_))
    rw [hfirst]
    exact List.mem_singleton_self _
  obtain ⟨spans, hbegan⟩ := h.began
  have htrace : (⟨slot.begun, some i, spans, .cancelled⟩ : Moment) ∈ s.trace :=
    hbegan.subset (List.mem_append_right _ (List.mem_map_of_mem hmem))
  have hany : s.cancelled = true := List.any_eq_true.2 ⟨_, htrace, rfl⟩
  rw [hc] at hany
  cases hany

/-- A cancelled course subsides as it goes on, if what is new may happen and no more checks are under way. -/
lemma Subsides.append (h : ctx.Subsides earlier containers s) (hc : s.cancelled = true) {ms : List Moment}
    (htrace : s'.trace = s.trace ++ ms)
    (hnew : ∀ m ∈ cancellation? s.trace, ∀ p ∈ ms, ctx.Aftermath earlier containers s.trace m p)
    (hslots : ∀ (i : Nat) (slot : Slot) (check : Check), s'.slots[i]? = some slot →
      slot.progress = .waiting check → s.slots[i]? = some slot) : ctx.Subsides earlier containers s' := by
  have hprefix : s.trace <+: s'.trace := htrace ▸ List.prefix_append _ _
  have hsame : cancellation? s'.trace = cancellation? s.trace := by
    rw [htrace, cancellation?_append_of_cancelled hc]
  refine ⟨fun m hm p hp => ?_, fun m hm i slot check hslot hcheck => ?_⟩
  · rw [hsame] at hm
    rw [htrace, sinceCancelled_append_of_cancelled hc] at hp
    rcases List.mem_append.1 hp with hold | hmem
    · exact (h.happened m hm p hold).mono hprefix
    · exact (hnew m hm p hmem).mono hprefix
  · rw [hsame] at hm
    exact (h.underWay m hm i slot check (hslots i slot check hslot hcheck) hcheck).mono hprefix

/-- A cancelled course subsides when a check is given up. -/
lemma Subsides.giveUp (h : ctx.Subsides earlier containers s) (hc : s.cancelled = true) {i : Nat} {slot : Slot}
    {check : Check} (hslot : s.slots[i]? = some slot) (hcheck : slot.progress = .waiting check) :
    ctx.Subsides earlier containers
      (s.turn i slot (ctx.settle s.now slot.container (.failed .cancelled))) := by
  refine h.append hc (State.trace_turn _ _ _ _) (fun m hm p hp => ?_) fun j slot' check' hslot' hcheck' => ?_
  · obtain ⟨e, he, rfl⟩ := List.mem_map.1 hp
    refine ⟨calledName?_of_mem_settle he, ?_⟩
    rintro j a hj rfl
    obtain rfl := eq_of_checkEnded_mem_settle he
    obtain rfl := Option.some.inj hj
    exact h.underWay m hm _ slot check hslot hcheck
  · rcases State.slot_of_turn hslot hslot' with ⟨rfl, rfl⟩ | ⟨-, hold⟩
    · cases hcheck'
    · exact hold

/-- A cancelled course subsides when the next container begins: its check is not called. -/
lemma Subsides.begin (h : ctx.Subsides earlier containers s) (hinv : ctx.Invariant earlier containers s)
    (hc : s.cancelled = true) (c : Container) (rest : List Container) :
    ctx.Subsides earlier containers (ctx.beginNext earlier s c rest) := by
  have hfirst : ctx.firstTurn earlier s c =
      ctx.start s.now true (earlier c.name + s.callsFor c.name) c := by rw [firstTurn, hc]
  refine h.append hc (trace_beginNext s c rest) (fun m hm p hp => ?_) fun j slot check hslot hcheck => ?_
  · rw [hfirst] at hp
    obtain ⟨e, he, rfl⟩ := List.mem_map.1 hp
    refine ⟨?_, ?_⟩
    · rcases calledName?_of_mem_start he with hnone | ⟨hfalse, -⟩
      · exact hnone
      · cases hfalse
    · -- nothing has happened yet at the position, so the work was not cancelled there
      rintro j a hj rfl
      obtain rfl := Option.some.inj hj
      refine ⟨fun _ => eq_cancelled_of_checkEnded_mem_start he, fun hown => ?_⟩
      have hnothing := List.filter_eq_nil_iff.1 (hinv.unbegun _ (Nat.le_refl _)) m (List.mem_of_find?_eq_some hm)
      exact absurd (beq_iff_eq.2 hown) hnothing
  · rcases slot_of_beginNext hslot with ⟨rfl, rfl⟩ | ⟨-, hold⟩
    · have hwaiting : (ctx.firstTurn earlier s c).progress = .waiting check := hcheck
      rw [hfirst] at hwaiting
      obtain ⟨hb, -⟩ := checkOf_of_start_eq_waiting hwaiting
      cases hb
    · exact hold

/-- Every step of a course that is already cancelled keeps to what may happen then. -/
lemma Subsides.step_of_cancelled (h : ctx.Subsides earlier containers s)
    (hinv : ctx.Invariant earlier containers s) (hc : s.cancelled = true) (hstep : ctx.Step earlier s s') :
    ctx.Subsides earlier containers s' := by
  rcases hstep.cases_of_cancelled hc with ⟨i, slot, check, hslot, hcheck, rfl⟩ | ⟨c, rest, rfl⟩ | ⟨time, rfl⟩
  · exact h.giveUp hc hslot hcheck
  · exact h.begin hinv hc c rest
  · refine h.append hc rfl (fun m _ p hp => ?_) fun _ _ _ hslot _ => hslot
    obtain rfl := List.mem_singleton.1 hp
    exact ⟨rfl, fun i a hi _ => by cases hi⟩

/-- A turn of the container at a position that cancels the work keeps to what may happen then, if it is bound for
the last word of the check. -/
lemma subsides_of_turn {i : Nat} {t : Turn} {spans : List Log.Span} (hc : s.cancelled = false)
    (hcontainer : containers[i]? = some c) (htrace : s'.trace = s.trace ++ t.moments time i spans)
    (hbegun : begunAt? s'.trace i = some begun)
    (hslots : ∀ slot : Slot, s'.slots[i]? = some slot → slot.progress = t.progress)
    (huncalled : .cancelled ∈ t.events → ∀ p ∈ sinceCancelled (t.moments time i spans),
      p.event.calledName? = none)
    (hword : .cancelled ∈ t.events → ∃ o, ctx.resolver.options c.name = .ok o ∧ BoundFor t
      (ctx.lastWord (ctx.checker.call c o (earlier c.name + callsIn (before s'.trace i) c.name)) begun time)) :
    ctx.Subsides earlier containers s' := by
  have hnew : cancellation? s'.trace = cancellation? (t.moments time i spans) := by
    rw [htrace, cancellation?_append_of_not_cancelled hc]
  have hsince : sinceCancelled s'.trace = sinceCancelled (t.moments time i spans) := by
    rw [htrace, sinceCancelled_append_of_not_cancelled hc]
  refine ⟨fun m hm p hp => ?_, fun m hm j slot check hslot hcheck => ?_⟩
  · rw [hnew] at hm
    rw [hsince] at hp
    obtain ⟨htime, hposition, hcancel⟩ := of_cancellation?_moments hm
    obtain ⟨o, hoptions, hbound⟩ := hword hcancel
    refine ⟨huncalled hcancel p hp, ?_⟩
    obtain ⟨e, he, rfl⟩ := List.mem_map.1 (mem_of_mem_sinceCancelled hp)
    rintro j a hj rfl
    obtain rfl := Option.some.inj hj
    refine ⟨fun hother => absurd hposition hother, fun _ => ⟨c, o, begun, hcontainer, hoptions, hbegun, ?_⟩⟩
    rw [htime]
    exact hbound.ended a he
  · rw [hnew] at hm
    obtain ⟨htime, hposition, hcancel⟩ := of_cancellation?_moments hm
    obtain ⟨o, hoptions, hbound⟩ := hword hcancel
    refine ⟨fun _ => rfl, fun hown => ?_⟩
    obtain rfl := Option.some.inj (hposition.symm.trans hown)
    refine ⟨c, o, begun, hcontainer, hoptions, hbegun, ?_⟩
    rw [htime]
    exact (hbound.waiting check ((hslots slot hslot).symm.trans hcheck)).symm

/-- The beginning of a container keeps to what may happen once it cancels the work. -/
lemma subsides_beginNext (hinv : ctx.Invariant earlier containers s) (hc : s.cancelled = false)
    {rest : List Container} (hqueue : s.queue = c :: rest)
    (hinv' : ctx.Invariant earlier containers (ctx.beginNext earlier s c rest)) :
    ctx.Subsides earlier containers (ctx.beginNext earlier s c rest) := by
  have hbegun : begunAt? (ctx.beginNext earlier s c rest).trace s.slots.length = some s.now := by
    rw [hinv'.begunAt?_eq, slots_beginNext, List.getElem?_concat_length]
    rfl
  refine subsides_of_turn hc (hinv.getElem?_of_queue hqueue) (trace_beginNext s c rest) hbegun
    (fun slot hslot => ?_) (fun hcancel p hp => calledName?_of_mem_sinceCancelled_start hcancel hp)
    fun hcancel => ?_
  · rw [slots_beginNext, List.getElem?_concat_length] at hslot
    obtain rfl := Option.some.inj hslot
    rfl
  · rw [hinv.before_beginNext]
    exact boundFor_start hcancel

/-- The next turn of a check keeps to what may happen once it cancels the work, if it is bound for the last word of
the check. -/
lemma Told.subsides {i : Nat} {slot : Slot} {pre : List Moment} {t : Turn} (htold : ctx.Told earlier s i slot pre)
    (hinv : ctx.Invariant earlier containers s) (hc : s.cancelled = false) (hslot : s.slots[i]? = some slot)
    (huncalled : ∀ e ∈ t.events, e.calledName? = none)
    (hword : .cancelled ∈ t.events → ∃ o, ctx.resolver.options slot.container.name = .ok o ∧ BoundFor t
      (ctx.lastWord (ctx.checker.call slot.container o
        (earlier slot.container.name + callsIn pre slot.container.name)) slot.begun time)) :
    ctx.Subsides earlier containers (State.turn { s with now := time } i slot t) := by
  have hbefore : before (State.turn { s with now := time } i slot t).trace i = pre :=
    htold.before_eq (List.prefix_append _ _)
  refine subsides_of_turn hc (hinv.getElem?_of_slot hslot) rfl
    (begunAt?_mono (List.prefix_append _ _) (hinv.begunAt?_of_slot hslot)) (fun slot' hslot' => ?_)
    (fun _ p hp => ?_) (hbefore ▸ hword)
  · rcases State.slot_of_turn (s := { s with now := time }) hslot hslot' with ⟨-, rfl⟩ | ⟨hne, -⟩
    · rfl
    · exact absurd rfl hne
  · obtain ⟨e, he, rfl⟩ := List.mem_map.1 (mem_of_mem_sinceCancelled hp)
    exact huncalled e he

/-- The waking of a check keeps to what may happen once it cancels the work. -/
lemma subsides_wake (hinv : ctx.Invariant earlier containers s) (hc : s.cancelled = false) {i : Nat}
    {slot : Slot} {check : Check} (hslot : s.slots[i]? = some slot)
    (hcheck : slot.progress = .waiting check) (hontime : ∀ d ∈ check.deadline, time ≤ d) :
    ctx.Subsides earlier containers
      (State.turn { s with now := time } i slot (ctx.conclude time slot.container check)) := by
  obtain ⟨pre, htold⟩ := hinv.told i slot hslot
  have hstory := htold.story
  rw [hcheck] at hstory
  obtain ⟨-, o, -, hconduct⟩ := hstory.checkOf
  refine htold.subsides hinv hc hslot (fun e he => calledName?_of_mem_conclude he) fun hcancel => ?_
  have hfirst := htold.cancelsFirst_eq_false hcheck hc hconduct.options
  have hlast := cancelsLast_of_cancelled_mem_conclude hcancel
  rw [hconduct.conduct] at hlast
  refine ⟨o, hconduct.options, boundFor_conclude hconduct.conduct hconduct.deadline hontime ?_⟩
  rw [hfirst, if_neg Bool.false_ne_true]
  exact hlast

/-- Every step of a course that is not yet cancelled keeps to what may happen once it is. -/
lemma subsides_step_of_not_cancelled (hinv : ctx.Invariant earlier containers s)
    (hc : s.cancelled = false) (hstep : ctx.Step earlier s s') : ctx.Subsides earlier containers s' := by
  have hinv' : ctx.Invariant earlier containers s' := hinv.step hstep
  cases hstep with
  | giveUp hcancelled _ _ _ =>
    rw [hc] at hcancelled
    cases hcancelled
  | begin hqueue _ _ _ => exact subsides_beginNext hinv hc hqueue hinv'
  | wake _ _ hslot hcheck _ hontime => exact subsides_wake hinv hc hslot hcheck hontime
  | lapse _ _ hslot _ _ _ =>
    -- passing a deadline cancels nothing
    obtain ⟨pre, htold⟩ := hinv.told _ _ hslot
    exact htold.subsides hinv hc hslot (fun e he => calledName?_of_mem_settle he)
      fun hcancel => absurd hcancel (cancelled_not_mem_settle _)
  | @cancel time _ _ _ =>
    have hafter : sinceCancelled (s.trace ++ [(⟨time, none, s.entered, .cancelled⟩ : Moment)]) = [] := by
      rw [sinceCancelled_append_of_not_cancelled hc]
      rfl
    have hmoment : cancellation? (s.trace ++ [(⟨time, none, s.entered, .cancelled⟩ : Moment)]) =
        some ⟨time, none, s.entered, .cancelled⟩ := by
      rw [cancellation?_append_of_not_cancelled hc]
      rfl
    refine ⟨fun m _ p hp => ?_, fun m hm i _ _ _ _ => ⟨fun _ => rfl, fun hown => ?_⟩⟩
    · have hnone : p ∈ sinceCancelled (s.trace ++ [(⟨time, none, s.entered, .cancelled⟩ : Moment)]) := hp
      rw [hafter] at hnone
      cases hnone
    · obtain rfl := Option.some.inj (hmoment.symm.trans hm)
      cases hown

/-- Nothing but the making of a resolver happens before the first container begins. -/
lemma subsides_start (t : Task) : ctx.Subsides earlier t.pod.containers t.start := by
  refine ⟨fun m _ p hp => ?_, fun m _ i slot check hslot => by cases hslot⟩
  obtain ⟨hnone, he | he⟩ := position_of_mem_trace_start (mem_of_mem_sinceCancelled hp)
  · exact ⟨by rw [he]; rfl, fun i a hi _ => by rw [hnone] at hi; cases hi⟩
  · exact ⟨by rw [he]; rfl, fun i a hi _ => by rw [hnone] at hi; cases hi⟩

/-- At every point of the course it subsides once it is cancelled. -/
theorem subsides_steps (earlier : String → Nat) (t : Task) (k : Nat) :
    ctx.Subsides earlier t.pod.containers (ctx.steps earlier k t.start) := by
  refine (steps_invariant
    (P := fun s => ctx.Invariant earlier t.pod.containers s ∧ ctx.Subsides earlier t.pod.containers s)
    ⟨invariant_start t, subsides_start t⟩ ?_ k).2
  rintro s s' ⟨hinv, hafter⟩ hstep
  refine ⟨hinv.step hstep, ?_⟩
  cases hc : s.cancelled with
  | true => exact hafter.step_of_cancelled hinv hc hstep
  | false => exact subsides_step_of_not_cancelled hinv hc hstep

/-- At every point of the course all that has happened after the cancellation is what may happen then. -/
theorem afterCancellation_steps (earlier : String → Nat) (t : Task) (k : Nat) :
    ctx.AfterCancellation earlier t.pod.containers (ctx.steps earlier k t.start).trace :=
  (subsides_steps earlier t k).happened

end Context

end Freshness.Sync
