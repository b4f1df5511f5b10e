import Freshness.Proofs.Sync.Report

/-!
# The clock

The clock goes on to what is due next and never back.  `State.OnTime` says what this rests on: a
cancellation, a waking and a deadline that are still to come are due now or later, and what has ended has
ended by now.  Every step leaves it so (`onTime_step`).

The times of the slots can be read from the trace.  A container has begun at the time of its first moment
(`begunAt?`) and has finished when its outcome was counted (`finishedAt?`); both are what its slot says
(`Invariant.begunAt?_eq`, `Invariant.finishedAt?_eq`).
-/

namespace Freshness.Sync

/-- Whether an event begins the work on a container. -/
def Event.isBeginning : Event → Bool
  | enablementAsked _ _ _ => true
  | _ => false

/-- Whether an event finishes the work on a container: its outcome is counted. -/
def Event.isFinish : Event → Bool
  | counted (.container _) => true
  | _ => false

/-- When the work on the container at a position began. -/
def begunAt? (trace : List Moment) (i : Nat) : Option Nat :=
  ((momentsAt trace i).find? (·.event.isBeginning)).map (·.time)

/-- When the work on the container at a position finished. -/
def finishedAt? (trace : List Moment) (i : Nat) : Option Nat :=
  ((momentsAt trace i).find? (·.event.isFinish)).map (·.time)

/-- When a container ended. -/
def Progress.endedAt? : Progress → Option Nat
  | waiting _ => none
  | ended time _ => some time

/-- The check under way is due now or later; what has ended has ended by now. -/
def Progress.OnTime (now : Nat) : Progress → Prop
  | waiting c => (∀ w ∈ c.wake, now ≤ w) ∧ ∀ d ∈ c.deadline, now ≤ d
  | ended time _ => time ≤ now

/-- All that is still to come is due now or later, and what has ended has ended by now. -/
structure State.OnTime (s : State) : Prop where
  cancellation : ∀ time ∈ s.cancelAt, s.now ≤ time
  progress : ∀ slot ∈ s.slots, slot.progress.OnTime s.now

/-! ## Parts of a trace -/

/-- What happened to a container in a first part of a trace is a first part of what happened to it. -/
lemma isPrefix_momentsAt {part trace : List Moment} (h : part <+: trace) (i : Nat) :
    momentsAt part i <+: momentsAt trace i := h.filter _

/-- A container that has begun in a part of the trace has begun at that time in the whole. -/
lemma begunAt?_mono {part trace : List Moment} (h : part <+: trace) {i time : Nat}
    (hpart : begunAt? part i = some time) : begunAt? trace i = some time := by
  obtain ⟨m, hm, htime⟩ := Option.map_eq_some_iff.1 hpart
  exact Option.map_eq_some_iff.2 ⟨m, (isPrefix_momentsAt h i).find?_eq_some hm, htime⟩

/-- A container that has finished in a part of the trace has finished at that time in the whole. -/
lemma finishedAt?_mono {part trace : List Moment} (h : part <+: trace) {i time : Nat}
    (hpart : finishedAt? part i = some time) : finishedAt? trace i = some time := by
  obtain ⟨m, hm, htime⟩ := Option.map_eq_some_iff.1 hpart
  exact Option.map_eq_some_iff.2 ⟨m, (isPrefix_momentsAt h i).find?_eq_some hm, htime⟩

/-- What comes before a container is known as soon as it has begun. -/
lemma before_eq_of_begunAt? {part trace : List Moment} (h : part <+: trace) {i time : Nat}
    (hbegun : begunAt? part i = some time) : before trace i = before part i := by
  obtain ⟨rest, rfl⟩ := h
  obtain ⟨m, hm, -⟩ := Option.map_eq_some_iff.1 hbegun
  obtain ⟨hmem, hposition⟩ := List.mem_filter.1 (List.mem_of_find?_eq_some hm)
  have hnot : (part.takeWhile (·.position != some i)).length ≠ part.length := by
    intro hlength
    have hall : part.takeWhile (·.position != some i) = part :=
      (List.takeWhile_prefix _).eq_of_length hlength
    rw [← hall] at hmem
    have hother := List.all_eq_true.1 List.all_takeWhile m hmem
    rw [bne_iff_ne] at hother
    exact hother (beq_iff_eq.1 hposition)
  unfold before
  rw [List.takeWhile_append, if_neg hnot]

/-! ## The next time -/

/-- The earliest of the due things is due no later than any other. -/
lemma earliest?_le {ds : List (Nat × Due)} {d e : Nat × Due} (h : earliest? ds = some d) (he : e ∈ ds) :
    d.1 ≤ e.1 := by
  induction ds generalizing d with
  | nil => cases he
  | cons x xs ih =>
    unfold earliest? at h
    cases hrest : earliest? xs with
    | none =>
      have hnil : xs = [] := by
        by_contra hne
        exact earliest?_ne_none hne hrest
      rw [hrest] at h
      obtain rfl := Option.some.inj h
      rw [hnil, List.mem_singleton] at he
      exact Nat.le_of_eq (congrArg Prod.fst he.symm)
    | some y =>
      simp only [hrest] at h
      have hmem : e = x ∨ y.1 ≤ e.1 := (List.mem_cons.1 he).imp_right (ih hrest)
      split at h <;> obtain rfl := Option.some.inj h
      · rcases hmem with rfl | hle <;> omega
      · rcases hmem with rfl | hle <;> omega

namespace State

variable {s : State} {time : Nat} {due : Due}

/-- The cancellation that is still to come is one of the due things. -/
lemma mem_allDue_of_cancelAt {t : Nat} (h : t ∈ s.cancelAt) : (t, Due.cancellation) ∈ s.allDue := by
  refine List.mem_append_left _ ?_
  rw [Option.mem_toList, Option.map_eq_some_iff]
  exact ⟨t, h, rfl⟩

/-- What is due in a slot is one of the due things. -/
lemma mem_allDue_of_due? {i : Nat} {slot : Slot} {d : Nat × Due} (hslot : s.slots[i]? = some slot)
    (hdue : slot.due? i = some d) : d ∈ s.allDue := by
  refine List.mem_append_right _ (List.mem_filterMap.2 ⟨(slot, i), ?_, hdue⟩)
  exact List.mk_mem_zipIdx_iff_getElem?.2 hslot

end State

/-- A check under way is due no earlier than its slot says. -/
lemma Slot.due?_le {i : Nat} {slot : Slot} {check : Check} (hcheck : slot.progress = .waiting check)
    {t : Nat} (ht : t ∈ check.wake ∨ t ∈ check.deadline) :
    ∃ d, slot.due? i = some d ∧ d.1 ≤ t := by
  simp only [Option.mem_def] at ht
  cases hw : check.wake with
  | none =>
    cases hd : check.deadline with
    | none => simp [hw, hd] at ht
    | some d =>
      refine ⟨(d, .deadline i slot), by simp [due?, check?, hcheck, hw, hd], ?_⟩
      simp only [hw, hd, reduceCtorEq, Option.some.injEq, false_or] at ht
      exact Nat.le_of_eq ht
  | some w =>
    cases hd : check.deadline with
    | none =>
      refine ⟨(w, .waking i slot check), by simp [due?, check?, hcheck, hw, hd], ?_⟩
      simp only [hw, hd, reduceCtorEq, Option.some.injEq, or_false] at ht
      exact Nat.le_of_eq ht
    | some d =>
      simp only [hw, hd, Option.some.injEq] at ht
      by_cases hwd : w ≤ d
      · exact ⟨(w, .waking i slot check), by simp [due?, check?, hcheck, hw, hd, hwd],
          by dsimp only; omega⟩
      · exact ⟨(d, .deadline i slot), by simp [due?, check?, hcheck, hw, hd, hwd], by dsimp only; omega⟩

namespace State

variable {s : State} {time : Nat} {due : Due}

/-- What is due next is due now or later. -/
lemma OnTime.now_le (h : s.OnTime) (hdue : earliest? s.allDue = some (time, due)) : s.now ≤ time := by
  rcases mem_allDue (earliest?_mem hdue) with ⟨t, hat, heq⟩ | ⟨i, slot, hslot, hd⟩
  · obtain ⟨rfl, -⟩ := Prod.mk.inj heq
    exact h.cancellation _ hat
  · have hontime := h.progress slot (List.mem_of_getElem? hslot)
    obtain ⟨check, hcheck, ⟨w, hwake, -, heq⟩ | ⟨t, hdeadline, -, heq⟩⟩ := Slot.due?_eq_some hd
    · obtain ⟨rfl, -⟩ := Prod.mk.inj heq
      rw [hcheck] at hontime
      exact hontime.1 _ hwake
    · obtain ⟨rfl, -⟩ := Prod.mk.inj heq
      rw [hcheck] at hontime
      exact hontime.2 _ hdeadline

/-- The clock may go on to what is due next. -/
lemma OnTime.advance (h : s.OnTime) (hdue : earliest? s.allDue = some (time, due)) :
    OnTime { s with now := time } where
  cancellation _ ht := earliest?_le hdue (mem_allDue_of_cancelAt ht)
  progress slot hslot := by
    cases hp : slot.progress with
    | ended t e =>
      have hended := h.progress slot hslot
      rw [hp] at hended
      exact Nat.le_trans hended (h.now_le hdue)
    | waiting check =>
      obtain ⟨i, hi⟩ := List.mem_iff_getElem?.1 hslot
      have hle : ∀ t, t ∈ check.wake ∨ t ∈ check.deadline → time ≤ t := fun t ht => by
        obtain ⟨d, hd, hdt⟩ := Slot.due?_le (i := i) hp ht
        exact Nat.le_trans (earliest?_le hdue (mem_allDue_of_due? hi hd)) hdt
      exact ⟨fun w hw => hle w (.inl hw), fun d hd => hle d (.inr hd)⟩

/-- A turn that leaves its container on time leaves all containers on time. -/
lemma OnTime.turn (h : s.OnTime) {i : Nat} {slot : Slot} {t : Turn} (ht : t.progress.OnTime s.now) :
    (s.turn i slot t).OnTime where
  cancellation := h.cancellation
  progress slot' hslot' := by
    rcases List.mem_or_eq_of_mem_set hslot' with hmem | rfl
    · exact h.progress slot' hmem
    · exact ht

end State

namespace Context

variable {ctx : Context} {earlier : String → Nat} {s s' : State} {c : Container} {now : Nat}

/-! ## Turns on time -/

/-- A check that is settled has ended now. -/
lemma onTime_settle (c : Container) (a : Answer) : (ctx.settle now c a).progress.OnTime now :=
  Nat.le_refl now

/-- A check that goes on waiting stays on time. -/
lemma onTime_await {check : Check} (h : (Progress.waiting check).OnTime now) :
    (ctx.await now c check).progress.OnTime now := by
  unfold await
  split
  · exact onTime_settle c _
  · exact h

/-- A check that is done with waiting stays on time. -/
lemma onTime_conclude {check : Check} (h : ∀ d ∈ check.deadline, now ≤ d) :
    (ctx.conclude now c check).progress.OnTime now := by
  simp only [conclude, Turn.after]
  split
  · exact onTime_settle c _
  · exact onTime_await ⟨fun w hw => absurd hw (Option.not_mem_none w), h⟩

/-- A deadline is due no earlier than its check was called. -/
lemma le_of_mem_deadline {begun d : Nat} (h : d ∈ ctx.limits.deadline.map (begun + ·.ceilMillis)) :
    begun ≤ d := by
  obtain ⟨x, -, rfl⟩ := Option.map_eq_some_iff.1 h
  exact Nat.le_add_right _ _

/-- A container begins on time. -/
lemma onTime_start (b : Bool) (n : Nat) (c : Container) : (ctx.start now b n c).progress.OnTime now := by
  have hdeadline : ∀ d ∈ ctx.limits.deadline.map (now + ·.ceilMillis), now ≤ d :=
    fun _ => le_of_mem_deadline
  rcases ctx.start_cases now b n c with ⟨asked, e, -, hstart⟩ | ⟨o, -, hstart⟩
  · rw [hstart]
    exact Nat.le_refl now
  · rw [hstart]
    simp only [check, Turn.after]
    split
    · exact onTime_settle c _
    · simp only [callCheck, Turn.after]
      split
      · exact onTime_conclude hdeadline
      · refine onTime_await ⟨fun w hw => ?_, hdeadline⟩
        obtain rfl := Option.some.inj hw
        exact Nat.le_add_right _ _

/-! ## The course -/

/-- Every step leaves the course on time. -/
theorem onTime_step (h : s.OnTime) (hstep : ctx.Step earlier s s') : s'.OnTime := by
  cases hstep with
  | giveUp _ _ _ _ => exact h.turn (onTime_settle _ _)
  | begin _ _ _ _ =>
    refine ⟨h.cancellation, fun slot hslot => ?_⟩
    rcases List.mem_append.1 hslot with hmem | hnew
    · exact h.progress slot hmem
    · obtain rfl := List.mem_singleton.1 hnew
      exact onTime_start _ _ _
  | wake _ hdue _ _ _ hdeadline => exact (h.advance hdue).turn (onTime_conclude hdeadline)
  | lapse _ hdue _ _ _ _ => exact (h.advance hdue).turn (onTime_settle _ _)
  | cancel _ hdue _ =>
    exact ⟨fun t ht => absurd ht (Option.not_mem_none t), (h.advance hdue).progress⟩

/-- The course on a pod starts on time. -/
lemma onTime_start_task (t : Task) : t.start.OnTime where
  cancellation _ _ := Nat.zero_le _
  progress _ hslot := absurd hslot List.not_mem_nil

/-! ## Times in the trace -/

/-- What is read first from a turn has the time of the turn. -/
lemma map_time_find?_moments {p : Event → Bool} (t : Turn) (time i : Nat) (spans : List Log.Span) :
    ((t.moments time i spans).find? (p ·.event)).map (·.time) = if t.events.any p then some time else none := by
  unfold Turn.moments
  generalize t.events = es
  induction es with
  | nil => rfl
  | cons e es ih =>
    rw [List.map_cons, List.find?_cons, List.any_cons]
    cases he : p e with
    | true => rfl
    | false => exact ih

/-- A turn at a time finishes its container exactly if it brings it to its end. -/
def FinishesAt (t : Turn) (time : Nat) : Prop :=
  (if t.events.any (·.isFinish) then some time else none) = t.progress.endedAt?

/-- Events that finish nothing may come before a turn. -/
lemma FinishesAt.after {t : Turn} {time : Nat} (h : FinishesAt t time) {pre : List Event}
    (hpre : ∀ e ∈ pre, e.isFinish = false) : FinishesAt (t.after pre) time := by
  have hnone : pre.any (·.isFinish) = false :=
    List.any_eq_false.2 fun e he => Bool.eq_false_iff.1 (hpre e he)
  unfold FinishesAt at *
  rw [Turn.after, List.any_append, hnone, Bool.false_or]
  exact h

/-- What stands aside finishes nothing. -/
lemma isFinish_of_isAside {e : Event} (h : e.isAside = true) : e.isFinish = false := by
  cases e <;> simp_all [Event.isAside, Event.isFinish]

/-- The turn in which a container ends finishes it. -/
lemma finishesAt_ending (time : Nat) (c : Container) (e : Ending) :
    FinishesAt (ctx.ending time c e) time := by
  cases e <;> rfl

/-- A turn of a check finishes its container if the check ends. -/
lemma CheckTurn.finishesAt {time : Nat} {t : Turn} (h : ctx.CheckTurn c time t) : FinishesAt t time := by
  cases h with
  | @waits pre check hpre =>
    have hnone : pre.any (·.isFinish) = false :=
      List.any_eq_false.2 fun e he => Bool.eq_false_iff.1 (isFinish_of_isAside (hpre e he))
    unfold FinishesAt
    rw [hnone]
    rfl
  | @ends pre a hpre =>
    have hsettle : FinishesAt (ctx.settle time c a) time :=
      (finishesAt_ending time c (endingOf c a)).after (by simp [Event.isFinish])
    exact hsettle.after fun e he => isFinish_of_isAside (hpre e he)

/-- The first turn of a container finishes it if it brings it to its end. -/
lemma finishesAt_start (time : Nat) (b : Bool) (n : Nat) (c : Container) :
    FinishesAt (ctx.start time b n c) time := by
  rcases ctx.start_cases time b n c with ⟨asked, e, hasked, hstart⟩ | ⟨o, -, hstart⟩
  · rw [hstart]
    refine (finishesAt_ending time c e).after fun ev hev => ?_
    have hquestion := hasked ev hev
    cases ev <;> simp_all [Event.isQuestion, Event.isFinish]
  · rw [hstart]
    exact (checkTurn_check time b n c o).finishesAt.after (by simp [opening, Event.isFinish])

variable {i begun n : Nat} {x b : Bool} {ms : List Moment} {p : Progress}

/-- A story begins with the first event of its container, when it began. -/
lemma Story.exists_cons (h : ctx.Story x i c begun n b ms p) :
    ∃ spans answer rest, ms =
      ⟨begun, some i, spans, .enablementAsked c.name ctx.limits.checkByDefault answer⟩ :: rest := by
  induction h with
  | begin => exact ⟨_, _, _, rfl⟩
  | resume _ _ ih =>
    obtain ⟨spans, answer, rest, rfl⟩ := ih
    exact ⟨spans, answer, _, rfl⟩

/-- A story finishes when its container ends. -/
lemma Story.map_time_find?_isFinish (h : ctx.Story x i c begun n b ms p) :
    (ms.find? (·.event.isFinish)).map (·.time) = p.endedAt? := by
  induction h with
  | begin =>
    rw [map_time_find?_moments (p := Event.isFinish)]
    exact finishesAt_start begun b n c
  | resume _ ht ih =>
    have hnone : _ = none := Option.map_eq_none_iff.1 ih
    rw [List.find?_append, hnone, Option.none_or, map_time_find?_moments (p := Event.isFinish)]
    exact ht.checkTurn.finishesAt

variable {containers : List Container}

/-- A container has begun at the time that its slot says. -/
theorem Invariant.begunAt?_eq (h : ctx.Invariant earlier containers s) (i : Nat) :
    begunAt? s.trace i = (s.slots[i]?).map (·.begun) := by
  unfold begunAt?
  cases hslot : s.slots[i]? with
  | none =>
    rw [h.unbegun i (List.getElem?_eq_none_iff.1 hslot)]
    rfl
  | some slot =>
    obtain ⟨pre, htold⟩ := h.told i slot hslot
    obtain ⟨spans, answer, rest, hms⟩ := htold.story.exists_cons
    rw [hms]
    rfl

/-- A container that has a slot has begun at the time of the slot. -/
lemma Invariant.begunAt?_of_slot (h : ctx.Invariant earlier containers s) {i : Nat} {slot : Slot}
    (hslot : s.slots[i]? = some slot) : begunAt? s.trace i = some slot.begun := by
  rw [h.begunAt?_eq, hslot]
  rfl

/-- A container has finished at the time at which its slot says that it ended. -/
theorem Invariant.finishedAt?_eq (h : ctx.Invariant earlier containers s) (i : Nat) :
    finishedAt? s.trace i = (s.slots[i]?).bind (·.progress.endedAt?) := by
  unfold finishedAt?
  cases hslot : s.slots[i]? with
  | none =>
    rw [h.unbegun i (List.getElem?_eq_none_iff.1 hslot)]
    rfl
  | some slot =>
    obtain ⟨pre, htold⟩ := h.told i slot hslot
    exact htold.story.map_time_find?_isFinish

end Context

end Freshness.Sync
