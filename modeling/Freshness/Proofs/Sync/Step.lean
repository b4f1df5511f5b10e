import Freshness.Sync.Termination
import Mathlib.Data.List.Basic

/-!
# What a step of the course can do

`Context.Step` lists the five things that one step of the course can be, each with everything that is
known when it happens: a check is given up because the work is cancelled, the next container begins, a
check wakes, a check passes its deadline, or the work is cancelled from outside.  `step_of_step?` shows
that the list is complete.

Most facts about the course do not depend on which check goes on for which reason.  `Resumes` puts the
three ways together in which a check that is under way gets its next turn, and `Step.cases_turn` reads a
step as one of three: a cancellation, a beginning, or the next turn of one check.

`steps_invariant` carries what every step preserves through a whole run.  Every step makes the measure of the
course smaller, so that a run stops (`step?_run`), and `Stopped` says where: at its end, or because a check goes
on for ever (`Stopped.ended_or_stuck`).
-/

namespace Freshness.Sync

/-! ## What is due in a slot -/

namespace Slot

/-- Nothing is due in a slot whose check is under way only if the check neither wakes nor has a
deadline. -/
lemma due?_eq_none {i : Nat} {slot : Slot} {check : Check} (hcheck : slot.progress = .waiting check)
    (h : slot.due? i = none) : check.wake = none ∧ check.deadline = none := by
  unfold due? check? at h
  simp only [hcheck, Option.bind_some] at h
  cases hw : check.wake <;> cases hd : check.deadline <;> simp only [hw, hd] at h
  · exact ⟨rfl, rfl⟩
  · simp at h
  · simp at h
  · split at h <;> simp at h

/-- A slot in which a check is under way holds that check. -/
lemma progress_of_isWaiting {slot : Slot} (h : slot.isWaiting = true) :
    ∃ check, slot.progress = .waiting check := by
  cases hp : slot.progress with
  | waiting check => exact ⟨check, rfl⟩
  | ended t e => simp [isWaiting, check?, hp] at h

end Slot

/-- Something that is due can be taken out of the due things of a state. -/
lemma earliest?_ne_none {ds : List (Nat × Due)} (h : ds ≠ []) : earliest? ds ≠ none := by
  cases ds with
  | nil => exact absurd rfl h
  | cons d ds =>
    unfold earliest?
    split
    · exact Option.some_ne_none d
    · split <;> exact Option.some_ne_none _

namespace Context

variable {ctx : Context} {earlier : String → Nat} {s s' : State}

/-- Nothing is to be done at once but a turn of a check that is due by now: no check is to be given up, and no
container can begin before such a turn. -/
structure Idle (ctx : Context) (s : State) : Prop where
  quiet : s.cancelled = true → s.firstWaiting? = none
  full : s.dueNow? = none → s.queue = [] ∨ s.hasRoom ctx.limits.concurrency = false

/-- While the window has room, only a check that is due by now goes on. -/
lemma Idle.due_by_now_or_full (h : ctx.Idle s) {time : Nat} {due : Due}
    (hdue : earliest? s.allDue = some (time, due)) :
    (due.isCheck = true ∧ time ≤ s.now) ∨ s.queue = [] ∨ s.hasRoom ctx.limits.concurrency = false := by
  by_cases hnow : s.dueNow? = none
  · exact .inr (h.full hnow)
  · obtain ⟨⟨time', due'⟩, hsome⟩ := Option.ne_none_iff_exists'.1 hnow
    obtain ⟨hfirst, hle, hcheck⟩ := State.dueNow?_eq_some hsome
    obtain ⟨rfl, rfl⟩ := Prod.mk.inj (Option.some.inj (hdue.symm.trans hfirst))
    exact .inl ⟨hcheck, hle⟩

/-- What one step of the course can do. -/
inductive Step (ctx : Context) (earlier : String → Nat) (s : State) : State → Prop where
  | giveUp {i : Nat} {slot : Slot} {check : Check} (hcancelled : s.cancelled = true)
      (hfirst : s.firstWaiting? = some (i, slot)) (hslot : s.slots[i]? = some slot)
      (hcheck : slot.progress = .waiting check) :
      Step ctx earlier s (s.turn i slot (ctx.settle s.now slot.container (.failed .cancelled)))
  | begin {c : Container} {rest : List Container} (hqueue : s.queue = c :: rest)
      (hroom : s.hasRoom ctx.limits.concurrency = true)
      (hquiet : s.cancelled = true → s.firstWaiting? = none) (hlater : s.dueNow? = none) :
      Step ctx earlier s (ctx.beginNext earlier s c rest)
  | wake {time i : Nat} {slot : Slot} {check : Check} (hidle : ctx.Idle s)
      (hdue : earliest? s.allDue = some (time, .waking i slot check))
      (hslot : s.slots[i]? = some slot) (hcheck : slot.progress = .waiting check)
      (hwake : check.wake = some time) (hdeadline : ∀ d ∈ check.deadline, time ≤ d) :
      Step ctx earlier s
        (State.turn { s with now := time } i slot (ctx.conclude time slot.container check))
  | lapse {time i : Nat} {slot : Slot} {check : Check} (hidle : ctx.Idle s)
      (hdue : earliest? s.allDue = some (time, .deadline i slot))
      (hslot : s.slots[i]? = some slot) (hcheck : slot.progress = .waiting check)
      (hdeadline : check.deadline = some time) (hwake : ∀ w ∈ check.wake, time < w) :
      Step ctx earlier s
        (State.turn { s with now := time } i slot (ctx.settle time slot.container ctx.deadlinePassed))
  | cancel {time : Nat} (hidle : ctx.Idle s)
      (hdue : earliest? s.allDue = some (time, .cancellation)) (hat : s.cancelAt = some time) :
      Step ctx earlier s { (State.record { s with now := time } none [.cancelled]) with cancelAt := none }

/-! ## Reading a step -/

/-- What happens when the clock goes on is one of the steps. -/
lemma step_happen {time : Nat} {due : Due} (hidle : ctx.Idle s)
    (hdue : earliest? s.allDue = some (time, due)) : ctx.Step earlier s (ctx.happen s time due) := by
  rcases State.mem_allDue (earliest?_mem hdue) with ⟨t, hat, heq⟩ | ⟨i, slot, hslot, hd⟩
  · obtain ⟨rfl, rfl⟩ := Prod.mk.inj heq
    exact .cancel hidle hdue hat
  · obtain ⟨check, hcheck, ⟨w, hwake, hdeadline, heq⟩ | ⟨t, hdeadline, hwake, heq⟩⟩ := Slot.due?_eq_some hd
    · obtain ⟨rfl, rfl⟩ := Prod.mk.inj heq
      exact .wake hidle hdue hslot hcheck hwake hdeadline
    · obtain ⟨rfl, rfl⟩ := Prod.mk.inj heq
      exact .lapse hidle hdue hslot hcheck hdeadline hwake

/-- Every step of the course is one of the five. -/
theorem step_of_step? (h : ctx.step? earlier s = some s') : ctx.Step earlier s s' := by
  unfold step? at h
  split at h
  · rename_i i slot hwaiting
    split at hwaiting
    · rename_i hcancelled
      obtain ⟨hslot, hw⟩ := State.firstWaiting?_eq_some hwaiting
      obtain ⟨check, hcheck⟩ := Slot.progress_of_isWaiting hw
      obtain rfl := Option.some.inj h
      exact .giveUp hcancelled hwaiting hslot hcheck
    · cases hwaiting
  · rename_i hnone
    have hquiet : s.cancelled = true → s.firstWaiting? = none := fun hc => by
      rwa [if_pos hc] at hnone
    split at h
    · rename_i time due hnow
      obtain rfl := Option.some.inj h
      have hidle : ctx.Idle s := ⟨hquiet, fun hnone => by cases hnow.symm.trans hnone⟩
      exact step_happen hidle (State.dueNow?_eq_some hnow).1
    · rename_i hlater
      split at h
      · rename_i c rest hqueue
        split at h
        · rename_i hroom
          obtain rfl := Option.some.inj h
          exact .begin hqueue hroom hquiet hlater
        · rename_i hroom
          obtain ⟨⟨time, due⟩, hdue, rfl⟩ := Option.map_eq_some_iff.1 h
          exact step_happen ⟨hquiet, fun _ => .inr (Bool.eq_false_iff.2 hroom)⟩ hdue
      · rename_i hqueue
        split at h
        · cases h
        · obtain ⟨⟨time, due⟩, hdue, rfl⟩ := Option.map_eq_some_iff.1 h
          exact step_happen ⟨hquiet, fun _ => .inl hqueue⟩ hdue

/-- The ways in which a check that is under way gets its next turn. -/
inductive Resumes (ctx : Context) (cancelled : Bool) (c : Container) (check : Check) :
    Nat → Turn → Prop where
  | giveUp {time : Nat} (hcancelled : cancelled = true) :
      Resumes ctx cancelled c check time (ctx.settle time c (.failed .cancelled))
  | wake {time : Nat} (hwake : check.wake = some time) (hdeadline : ∀ d ∈ check.deadline, time ≤ d) :
      Resumes ctx cancelled c check time (ctx.conclude time c check)
  | lapse {time : Nat} (hdeadline : check.deadline = some time) (hwake : ∀ w ∈ check.wake, time < w) :
      Resumes ctx cancelled c check time (ctx.settle time c ctx.deadlinePassed)

/-- A step is a cancellation from outside, the beginning of the next container, or the next turn of a
check that is under way. -/
theorem Step.cases_turn (h : ctx.Step earlier s s') :
    (∃ time, s' = { (State.record { s with now := time } none [.cancelled]) with cancelAt := none }) ∨
    (∃ c rest, s.queue = c :: rest ∧ s' = ctx.beginNext earlier s c rest) ∨
    ∃ time i slot check t, s.slots[i]? = some slot ∧ slot.progress = .waiting check ∧
      ctx.Resumes s.cancelled slot.container check time t ∧
      s' = State.turn { s with now := time } i slot t := by
  cases h with
  | giveUp hcancelled _ hslot hcheck =>
    exact .inr (.inr ⟨s.now, _, _, _, _, hslot, hcheck, .giveUp hcancelled, rfl⟩)
  | begin hqueue _ _ _ => exact .inr (.inl ⟨_, _, hqueue, rfl⟩)
  | wake _ _ hslot hcheck hwake hdeadline =>
    exact .inr (.inr ⟨_, _, _, _, _, hslot, hcheck, .wake hwake hdeadline, rfl⟩)
  | lapse _ _ hslot hcheck hdeadline hwake =>
    exact .inr (.inr ⟨_, _, _, _, _, hslot, hcheck, .lapse hdeadline hwake, rfl⟩)
  | cancel _ _ _ => exact .inl ⟨_, rfl⟩

/-! ## Runs -/

/-- What holds at the start and is kept by every step holds after any number of steps. -/
theorem steps_invariant {P : State → Prop} (h : P s)
    (hstep : ∀ {t t' : State}, P t → ctx.Step earlier t t' → P t') (n : Nat) :
    P (ctx.steps earlier n s) := by
  induction n generalizing s with
  | zero => exact h
  | succ n ih =>
    unfold steps
    split
    · exact h
    · rename_i next hnext
      exact ih (hstep h (step_of_step? hnext))

/-- A run with one more step goes one step on from where it was, if it can. -/
lemma steps_succ (earlier : String → Nat) (n : Nat) (s : State) :
    ctx.steps earlier (n + 1) s =
      (ctx.step? earlier (ctx.steps earlier n s)).getD (ctx.steps earlier n s) := by
  induction n generalizing s with
  | zero =>
    simp only [steps]
    cases ctx.step? earlier s <;> rfl
  | succ n ih =>
    unfold steps
    cases hnext : ctx.step? earlier s with
    | none => simp only [hnext, Option.getD_none]
    | some next => exact ih next

/-- The trace goes on with every step. -/
lemma Step.trace_eq (h : ctx.Step earlier s s') : ∃ ms, s'.trace = s.trace ++ ms := by
  rcases h.cases_turn with ⟨time, rfl⟩ | ⟨c, rest, -, rfl⟩ | ⟨time, i, slot, check, t, -, -, -, rfl⟩
  · exact ⟨[⟨time, none, s.entered, .cancelled⟩], rfl⟩
  · exact ⟨_, rfl⟩
  · exact ⟨_, rfl⟩

/-- A run with one more step has a trace that goes on from where it was. -/
lemma trace_steps_succ (earlier : String → Nat) (n : Nat) (s : State) :
    ∃ ms, (ctx.steps earlier (n + 1) s).trace = (ctx.steps earlier n s).trace ++ ms := by
  rw [steps_succ]
  cases hnext : ctx.step? earlier (ctx.steps earlier n s) with
  | none => exact ⟨[], (List.append_nil _).symm⟩
  | some next => exact (step_of_step? hnext).trace_eq

/-! ## The end of a run -/

/-- Every step makes the measure smaller. -/
lemma Step.measure_lt (h : ctx.Step earlier s s') : s'.measure < s.measure := by
  cases h with
  | giveUp _ _ hslot hcheck =>
    refine measure_turn_lt hslot ?_
    rw [weight_settle]
    exact Slot.weight_pos hcheck
  | begin hqueue _ _ _ => exact measure_beginNext_lt hqueue
  | @wake time i slot check _ _ hslot hcheck hwake _ =>
    refine measure_turn_lt (s := { s with now := time }) hslot ?_
    have hafter := weight_conclude ctx time slot check
    have hbefore : slot.weight = 2 := by simp [Slot.weight, hcheck, hwake]
    omega
  | @lapse time i slot check _ _ hslot hcheck _ _ =>
    refine measure_turn_lt (s := { s with now := time }) hslot ?_
    rw [weight_settle]
    exact Slot.weight_pos hcheck
  | cancel _ _ hat => simp [State.measure, State.record, hat]

/-- Enough steps lead to where nothing can happen any more. -/
lemma step?_steps {n : Nat} (h : s.measure ≤ n) : ctx.step? earlier (ctx.steps earlier n s) = none := by
  induction n generalizing s with
  | zero =>
    cases hnext : ctx.step? earlier s with
    | none => exact hnext
    | some next =>
      have hlt := (step_of_step? hnext).measure_lt
      omega
  | succ n ih =>
    unfold steps
    split
    · assumption
    · rename_i next hnext
      have hlt := (step_of_step? hnext).measure_lt
      exact ih (by omega)

/-- Nothing can happen any more at the end of a run. -/
theorem step?_run (earlier : String → Nat) (s : State) : ctx.step? earlier (ctx.run earlier s) = none :=
  step?_steps (Nat.le_refl _)

/-- Where nothing can happen any more, no check is to be given up, the window has no room for a container that is
left, and nothing is due unless all containers are at their end. -/
structure Stopped (ctx : Context) (s : State) : Prop where
  quiet : s.cancelled = true → s.firstWaiting? = none
  full : s.queue = [] ∨ s.hasRoom ctx.limits.concurrency = false
  still : s.isDone = true ∨ earliest? s.allDue = none

/-- A course that cannot go on has stopped. -/
lemma stopped_of_step?_eq_none (h : ctx.step? earlier s = none) : ctx.Stopped s := by
  unfold step? at h
  split at h
  · cases h
  · rename_i hnone
    have hquiet : s.cancelled = true → s.firstWaiting? = none := fun hc => by
      rwa [if_pos hc] at hnone
    split at h
    · cases h
    · split at h
      · split at h
        · cases h
        · rename_i hroom
          exact ⟨hquiet, .inr (Bool.eq_false_iff.2 hroom), .inr (Option.map_eq_none_iff.1 h)⟩
      · rename_i hqueue
        split at h
        · rename_i hdone
          exact ⟨hquiet, .inl hqueue, .inl hdone⟩
        · exact ⟨hquiet, .inl hqueue, .inr (Option.map_eq_none_iff.1 h)⟩

/-- A window that is at least one wide has no room only if a check is under way. -/
lemma exists_isWaiting_of_not_hasRoom {n : Nat} (hn : 0 < n) (h : s.hasRoom n = false) :
    ∃ slot ∈ s.slots, slot.isWaiting = true := by
  have hlt : s.slots.findIdx (·.isWaiting) < s.slots.length := by
    have hfull : ¬s.slots.length < s.head + n := by simpa [State.hasRoom] using h
    unfold State.head at hfull
    omega
  exact List.findIdx_lt_length.1 hlt

/-- Where nothing can happen any more, all containers have ended, unless there is a check under way that
neither wakes nor has a deadline. -/
theorem Stopped.ended_or_stuck (h : ctx.Stopped s) (hn : 0 < ctx.limits.concurrency) :
    (s.queue = [] ∧ ∀ slot ∈ s.slots, slot.isWaiting = false) ∨
      ∃ (i : Nat) (slot : Slot) (check : Check), s.slots[i]? = some slot ∧
        slot.progress = .waiting check ∧ check.wake = none ∧ check.deadline = none := by
  by_cases hunderWay : ∃ slot ∈ s.slots, slot.isWaiting = true
  · right
    obtain ⟨slot, hmem, hwaiting⟩ := hunderWay
    obtain ⟨i, hi⟩ := List.mem_iff_getElem?.1 hmem
    obtain ⟨check, hcheck⟩ := Slot.progress_of_isWaiting hwaiting
    have hnot : s.isDone ≠ true := fun hdone => by
      simp only [State.isDone, Bool.and_eq_true, List.all_eq_true] at hdone
      have hended := hdone.2 slot hmem
      rw [hwaiting] at hended
      cases hended
    have hnil : s.allDue = [] := by
      by_contra hne
      exact earliest?_ne_none hne (h.still.resolve_left hnot)
    have hnone : slot.due? i = none :=
      List.filterMap_eq_nil_iff.1 (List.append_eq_nil_iff.1 hnil).2 (slot, i)
        (List.mk_mem_zipIdx_iff_getElem?.2 hi)
    exact ⟨i, slot, check, hi, hcheck, Slot.due?_eq_none hcheck hnone⟩
  · left
    refine ⟨h.full.resolve_right fun hfull => hunderWay (exists_isWaiting_of_not_hasRoom hn hfull), ?_⟩
    intro slot hmem
    rw [Bool.eq_false_iff]
    exact fun hwaiting => hunderWay ⟨slot, hmem, hwaiting⟩

end Context

end Freshness.Sync
