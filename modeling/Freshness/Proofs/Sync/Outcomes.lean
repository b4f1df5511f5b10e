import Freshness.Proofs.Sync.Report

/-!
# The count of outcomes

A container is counted when it comes to its ending, once and with the outcome of that ending.  At every point
of the course the counters thus tell how many of the containers that have begun came to each outcome
(`countP_counts_steps`), and those of a report tell it of its endings (`outcome_counters_report`).
-/

namespace Freshness.Sync

/-- Whether an event counts a container with an outcome. -/
def Event.counts (o : Outcome) (e : Event) : Bool := e.observation? == some (.container o)

/-- Whether a container has come to an ending with an outcome. -/
def Progress.cameTo (o : Outcome) : Progress → Bool
  | .waiting _ => false
  | .ended _ e => e.outcome == o

/-- What is counted are the events that count. -/
lemma outcome_counters (r : Report) (o : Outcome) :
    r.counters.outcome o = r.trace.countP (·.event.counts o) := by
  unfold Report.counters Counters.outcome
  rw [List.count_eq_countP, List.countP_filterMap]
  refine List.countP_congr fun m _ => ?_
  unfold Event.counts
  cases m.event.observation? <;> simp

namespace Context

variable {ctx : Context} {c : Container} {time : Nat}

/-! ## Turns -/

/-- A turn counts the outcome to which it brings its container, and no other. -/
def CountsOutcome (t : Turn) : Prop :=
  ∀ o, t.events.countP (·.counts o) = if t.progress.cameTo o then 1 else 0

/-- Events that count nothing may come before a turn. -/
lemma CountsOutcome.after {t : Turn} (h : CountsOutcome t) {pre : List Event}
    (hpre : ∀ e ∈ pre, e.observation? = none) : CountsOutcome (t.after pre) := by
  intro o
  have hnone : pre.countP (·.counts o) = 0 := by
    refine List.countP_eq_zero.2 fun e he hcounts => ?_
    rw [Event.counts, hpre e he] at hcounts
    cases hcounts
  rw [Turn.after, List.countP_append, hnone, Nat.zero_add]
  exact h o

/-- What stands aside counts nothing. -/
lemma observation?_of_isAside {e : Event} (h : e.isAside = true) : e.observation? = none := by
  cases e <;> simp_all [Event.isAside, Event.observation?]

/-- The turn in which a container ends counts its outcome. -/
lemma countsOutcome_ending (time : Nat) (c : Container) (e : Ending) :
    CountsOutcome (ctx.ending time c e) := by
  intro o
  have hcounted : (Event.counted (.container e.outcome)).counts o = (e.outcome == o) := by
    simp [Event.counts, Event.observation?]
  have hevents : (ctx.ending time c e).events.countP (·.counts o) =
      [Event.counted (.container e.outcome)].countP (·.counts o) := by
    cases e <;> rfl
  rw [hevents, List.countP_singleton, hcounted]
  rfl

/-- A turn of a check counts the outcome to which it brings the container. -/
lemma CheckTurn.countsOutcome {t : Turn} (h : ctx.CheckTurn c time t) : CountsOutcome t := by
  cases h with
  | @waits pre check hpre =>
    intro o
    refine List.countP_eq_zero.2 fun e he hcounts => ?_
    rw [Event.counts, observation?_of_isAside (hpre e he)] at hcounts
    cases hcounts
  | @ends pre a hpre =>
    have hsettle : CountsOutcome (ctx.settle time c a) :=
      (countsOutcome_ending time c (endingOf c a)).after (by simp [Event.observation?])
    exact hsettle.after fun e he => observation?_of_isAside (hpre e he)

/-- The first turn of a container counts the outcome to which it brings it. -/
lemma countsOutcome_start (time : Nat) (b : Bool) (n : Nat) (c : Container) :
    CountsOutcome (ctx.start time b n c) := by
  rcases ctx.start_cases time b n c with ⟨asked, e, hasked, hstart⟩ | ⟨o, -, hstart⟩
  · rw [hstart]
    refine (countsOutcome_ending time c e).after fun ev hev => ?_
    have hquestion := hasked ev hev
    cases ev <;> simp_all [Event.isQuestion, Event.observation?]
  · rw [hstart]
    exact (checkTurn_check time b n c o).countsOutcome.after (by simp [opening, Event.observation?])

/-! ## The course -/

variable {earlier : String → Nat} {s s' : State}

/-- The moments of a turn count what its events count. -/
lemma countP_moments (p : Event → Bool) (t : Turn) (time i : Nat) (spans : List Log.Span) :
    (t.moments time i spans).countP (p ·.event) = t.events.countP p := by
  unfold Turn.moments
  rw [List.countP_map]
  rfl

/-- A step counts a container exactly if it brings it to its ending. -/
lemma countP_counts_step (o : Outcome)
    (h : s.trace.countP (·.event.counts o) = s.slots.countP (·.progress.cameTo o))
    (hstep : ctx.Step earlier s s') :
    s'.trace.countP (·.event.counts o) = s'.slots.countP (·.progress.cameTo o) := by
  rcases hstep.cases_turn with ⟨time, rfl⟩ | ⟨c, rest, -, rfl⟩ |
    ⟨time, i, slot, check, t, hslot, hcheck, ht, rfl⟩
  · have htrace : (s.trace ++ [(⟨time, none, s.entered, .cancelled⟩ : Moment)]).countP (·.event.counts o) =
        s.trace.countP (·.event.counts o) := by
      rw [List.countP_append]
      rfl
    exact htrace.trans h
  · have hturn : CountsOutcome (ctx.start s.now s.cancelled (earlier c.name + s.callsFor c.name) c) :=
      countsOutcome_start _ _ _ c
    rw [trace_beginNext, slots_beginNext, List.countP_append, List.countP_append,
      countP_moments (Event.counts o), h, List.countP_singleton]
    exact congrArg _ (hturn o)
  · -- the container was under way before the turn, so nothing is counted twice
    obtain ⟨hi, hget⟩ := List.getElem?_eq_some_iff.1 hslot
    have hwaiting : s.slots[i].progress.cameTo o = false := by
      rw [hget, hcheck]
      rfl
    rw [State.trace_turn, State.slots_turn, List.countP_append, countP_moments (Event.counts o),
      ht.checkTurn.countsOutcome o, List.countP_set hi, hwaiting]
    exact congrArg (· + _) h

/-- At every point of the course the containers counted with an outcome are those that came to it. -/
theorem countP_counts_steps (earlier : String → Nat) (t : Task) (n : Nat) (o : Outcome) :
    (ctx.steps earlier n t.start).trace.countP (·.event.counts o) =
      (ctx.steps earlier n t.start).slots.countP (·.progress.cameTo o) := by
  refine steps_invariant
    (P := fun s => s.trace.countP (·.event.counts o) = s.slots.countP (·.progress.cameTo o)) ?_
    (countP_counts_step o) n
  refine List.countP_eq_zero.2 fun m hm hcounts => ?_
  rcases (position_of_mem_trace_start hm).2 with he | he <;> rw [he] at hcounts <;> cases hcounts

/-! ## Reports -/

/-- The end of a pod counts no container. -/
lemma countP_counts_closing (pod : PodId) (now : Nat) (es : List Ending) (o : Outcome) :
    (closing pod now es).countP (·.counts o) = 0 := by
  refine List.countP_eq_zero.2 fun e he hcounts => ?_
  rcases List.mem_cons.1 he with rfl | hlog
  · simp [Event.counts, Event.observation?] at hcounts
  · obtain ⟨f, -, rfl⟩ := List.mem_map.1 hlog
    cases hcounts

/-- The counters of a report that tells endings count their outcomes. -/
theorem outcome_counters_report {setup : Setup} {earlier : String → Nat} {t : Task} {es : List Ending}
    (hes : (setup.report earlier t).endings = some es) (o : Outcome) :
    (setup.report earlier t).counters.outcome o = es.countP (·.outcome == o) := by
  have hfinal : (setup.final earlier t).endings? = some es := hes
  have htrace : (setup.report earlier t).trace.countP (·.event.counts o) =
      (setup.final earlier t).trace.countP (·.event.counts o) := by
    rw [report_eq, State.report, hfinal]
    simp only [Option.map_some, Option.getD_some]
    rw [State.trace_recordPod, List.countP_append, List.countP_map]
    exact congrArg _ (countP_counts_closing _ _ es o)
  have hslots : (setup.final earlier t).slots.countP (·.progress.cameTo o) = es.countP (·.outcome == o) := by
    unfold State.endings? at hfinal
    obtain ⟨-, hmapM⟩ := (Option.ite_none_right_eq_some).1 hfinal
    have hcame : ∀ slot : Slot, slot.progress.cameTo o = slot.ending?.any (·.outcome == o) := by
      intro slot
      unfold Slot.ending?
      cases slot.progress <;> rfl
    have hmap := congrArg (List.countP (Option.any (·.outcome == o))) (map_eq_of_mapM_eq_some hmapM)
    rw [List.countP_map, List.countP_map] at hmap
    simp only [hcame]
    exact hmap
  rw [outcome_counters, htrace, ← hslots]
  exact countP_counts_steps earlier t _ o

end Context

end Freshness.Sync
