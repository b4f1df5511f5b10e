import Freshness.Proofs.Sync.Window
import Mathlib.Data.Finset.Card
import Mathlib.Data.Finset.Max
import Mathlib.Order.Interval.Finset.Nat

/-!
# How many containers are worked on at a time

A container that has begun has, before anything happened to it, all those behind it that must have left the
window (`finished_before_steps`).  So of the containers that have begun the unfinished ones lie within one
window, at every moment of the trace (`card_underWay_le`), and so do the checks that were called and have no
answer yet.

`begins_report` puts this together with the times at which the window opens, for the limits that any draft of
a setup leads to.
-/

namespace Freshness.Sync

/-- Whether the container at a position has begun and not finished. -/
def underWay (trace : List Moment) (i : Nat) : Bool :=
  (begunAt? trace i).isSome && (finishedAt? trace i).isNone

/-- Whether the check of the container at a position was called and has no answer. -/
def inFlight (trace : List Moment) (i : Nat) : Bool :=
  (momentsAt trace i).any (·.event.calledName?.isSome) && (answersAt trace i).isEmpty

/-! ## Containers under way -/

/-- If all containers that are a window ahead have finished before a container begins, then those that have
begun and not finished lie within one window. -/
theorem card_underWay_le {trace : List Moment} {n : Nat}
    (h : ∀ i j, i + n ≤ j → (begunAt? trace j).isSome = true →
      (finishedAt? (before trace j) i).isSome = true) {p : List Moment} (hp : p <+: trace) (m : Nat) :
    ((Finset.range m).filter (underWay p ·)).card ≤ n := by
  rcases ((Finset.range m).filter (underWay p ·)).eq_empty_or_nonempty with hempty | hne
  · rw [hempty]
    exact Nat.zero_le n
  · -- the last container under way has all those behind it finished that are outside of the window
    obtain ⟨j, hj, hmax⟩ := Finset.exists_max_image _ id hne
    have hwithin : (Finset.range m).filter (underWay p ·) ⊆ Finset.Ico (j + 1 - n) (j + 1) := by
      intro i hi
      have hij : i ≤ j := hmax i hi
      rw [Finset.mem_filter, underWay, Bool.and_eq_true] at hi hj
      refine Finset.mem_Ico.2 ⟨?_, by omega⟩
      by_contra hfar
      obtain ⟨time, hbegun⟩ := Option.isSome_iff_exists.1 hj.2.1
      have hbefore := h i j (by omega) (Option.isSome_iff_exists.2 ⟨time, begunAt?_mono hp hbegun⟩)
      rw [before_eq_of_begunAt? hp hbegun] at hbefore
      obtain ⟨finish, hfinished⟩ := Option.isSome_iff_exists.1 hbefore
      have hunfinished := Option.isNone_iff_eq_none.1 hi.2.2
      rw [finishedAt?_mono (List.takeWhile_prefix _) hfinished] at hunfinished
      cases hunfinished
    refine (Finset.card_le_card hwithin).trans ?_
    rw [Nat.card_Ico]
    omega

namespace Context

variable {ctx : Context} {earlier : String → Nat} {containers : List Container} {s s' : State}

/-! ## What has finished before a container begins -/

/-- Every step keeps that the containers that are a window ahead of one have finished before it. -/
lemma finished_before_step (hinv : ctx.Invariant earlier containers s) (hn : 0 < ctx.limits.concurrency)
    (h : ∀ i j, i + ctx.limits.concurrency ≤ j → j < s.slots.length →
      (finishedAt? (before s.trace j) i).isSome = true)
    (hstep : ctx.Step earlier s s') :
    ∀ i j, i + ctx.limits.concurrency ≤ j → j < s'.slots.length →
      (finishedAt? (before s'.trace j) i).isSome = true := by
  intro i j hij hj
  obtain ⟨ms, htrace⟩ := hstep.trace_eq
  by_cases hold : j < s.slots.length
  · obtain ⟨pre, htold⟩ := hinv.told j _ (List.getElem?_eq_getElem hold)
    have hsame : before s'.trace j = before s.trace j := by
      rw [htold.before_eq (htrace ▸ List.prefix_append _ _), htold.before_eq List.prefix_rfl]
    rw [hsame]
    exact h i j hij hold
  · cases hstep with
    | @begin c rest hqueue hroom _ _ =>
      rw [slots_beginNext, List.length_append, List.length_singleton] at hj
      obtain rfl : j = s.slots.length := by omega
      rw [hinv.before_beginNext, hinv.finishedAt?_eq]
      exact (State.hasRoom_iff hn).1 hroom i hij
    | giveUp _ _ _ _ => exact absurd (by simpa using hj) hold
    | wake _ _ _ _ _ _ => exact absurd (by simpa using hj) hold
    | lapse _ _ _ _ _ _ => exact absurd (by simpa using hj) hold
    | cancel _ _ _ => exact absurd hj hold

/-- At every point of the course the containers that are a window ahead of one have finished before it. -/
theorem finished_before_steps (hn : 0 < ctx.limits.concurrency) (earlier : String → Nat) (t : Task)
    (m : Nat) :
    ∀ i j, i + ctx.limits.concurrency ≤ j → j < (ctx.steps earlier m t.start).slots.length →
      (finishedAt? (before (ctx.steps earlier m t.start).trace j) i).isSome = true :=
  (steps_invariant
    (P := fun s => ctx.Invariant earlier t.pod.containers s ∧
      ∀ i j, i + ctx.limits.concurrency ≤ j → j < s.slots.length →
        (finishedAt? (before s.trace j) i).isSome = true)
    ⟨invariant_start t, fun _ _ _ hj => absurd hj (Nat.not_lt_zero _)⟩
    (fun h hstep => ⟨h.1.step hstep, finished_before_step h.1 hn h.2 hstep⟩) m).2

/-! ## Checks that are in flight -/

variable {c : Container} {es q : List Event} {p : Progress}

/-- Nothing finishes a container before its check has ended. -/
lemma isFinish_of_mem_opening_append {pre : List Event} (hpre : ∀ e ∈ pre, e.isAside = true) {f : Event}
    (hf : f ∈ ctx.opening c ++ pre) : f.isFinish = false := by
  rcases List.mem_append.1 hf with hopening | hmem
  · simp only [opening, List.mem_cons, List.not_mem_nil, or_false] at hopening
    rcases hopening with rfl | rfl | rfl <;> rfl
  · exact isFinish_of_isAside (hpre f hmem)

/-- Once a container with a called check has finished, its check has an answer. -/
lemma Account.exists_checkEnded (h : ctx.Account c es p) (hq : q <+: es)
    (hcall : ∃ e ∈ q, e.calledName?.isSome = true) (hfinish : ∃ e ∈ q, e.isFinish = true) :
    ∃ a, .checkEnded a ∈ q := by
  obtain ⟨e, he, hcalled⟩ := hcall
  obtain ⟨f, hf, hfinish⟩ := hfinish
  have hending : ∀ {e' : Ending}, e ∉ ctx.endingEvents c e' := fun hmem => by
    rw [calledName?_of_mem_endingEvents hmem] at hcalled
    cases hcalled
  cases h with
  | disabled _ =>
    rcases List.mem_cons.1 (hq.subset he) with rfl | hmem
    · cases hcalled
    · exact absurd hmem hending
  | misconfigured _ _ =>
    rcases List.mem_cons.1 (hq.subset he) with rfl | hmem
    · cases hcalled
    · rcases List.mem_cons.1 hmem with rfl | hmem
      · cases hcalled
      · exact absurd hmem hending
  | checking _ _ hpre =>
    rw [isFinish_of_mem_opening_append hpre (hq.subset hf)] at hfinish
    cases hfinish
  | @checked _ _ pre a _ _ hpre =>
    have hanswer : ctx.opening c ++ pre ++ [.checkEnded a] <+:
        ctx.opening c ++ pre ++ .checkEnded a :: ctx.endingEvents c (endingOf c a) :=
      ⟨ctx.endingEvents c (endingOf c a), by simp⟩
    rcases List.prefix_or_prefix_of_prefix hq hanswer with hshort | hlong
    · -- the outcome is counted only after the answer
      rcases List.mem_append.1 (hshort.subset hf) with hmem | hmem
      · rw [isFinish_of_mem_opening_append hpre hmem] at hfinish
        cases hfinish
      · rw [List.mem_singleton.1 hmem] at hfinish
        cases hfinish
    · exact ⟨a, hlong.subset (List.mem_append_right _ (List.mem_singleton_self _))⟩

/-- A container to which something has happened has begun. -/
lemma Told.isSome_begunAt? {i : Nat} {slot : Slot} {pre part : List Moment} {m : Moment}
    (h : ctx.Told earlier s i slot pre) (hpart : momentsAt part i <+: momentsAt s.trace i)
    (hm : m ∈ momentsAt part i) : (begunAt? part i).isSome = true := by
  obtain ⟨spans, answer, rest, hms⟩ := h.story.exists_cons
  unfold begunAt?
  cases hmoments : momentsAt part i with
  | nil =>
    rw [hmoments] at hm
    cases hm
  | cons x xs =>
    rw [hmoments, hms, List.cons_prefix_cons] at hpart
    rw [hpart.1]
    rfl

/-- A container whose check is in flight is under way. -/
lemma Invariant.underWay_of_inFlight (h : ctx.Invariant earlier containers s) {part : List Moment} {i : Nat}
    (hpart : momentsAt part i <+: momentsAt s.trace i) (hflight : inFlight part i = true) :
    underWay part i = true := by
  unfold inFlight at hflight
  rw [Bool.and_eq_true, List.any_eq_true, List.isEmpty_iff] at hflight
  obtain ⟨⟨m, hm, hcalled⟩, hanswers⟩ := hflight
  have hbegun : i < s.slots.length := by
    by_contra hnot
    rw [h.unbegun i (Nat.not_lt.1 hnot), List.prefix_nil] at hpart
    rw [hpart] at hm
    cases hm
  obtain ⟨pre, htold⟩ := h.told i _ (List.getElem?_eq_getElem hbegun)
  unfold underWay
  rw [Bool.and_eq_true]
  refine ⟨htold.isSome_begunAt? hpart hm, ?_⟩
  unfold finishedAt?
  rw [Option.isNone_iff_eq_none, Option.map_eq_none_iff, List.find?_eq_none]
  intro f hf hfinish
  obtain ⟨a, ha⟩ := htold.account.exists_checkEnded (hpart.map (·.event))
    ⟨m.event, List.mem_map_of_mem hm, hcalled⟩ ⟨f.event, List.mem_map_of_mem hf, hfinish⟩
  have hmem : a ∈ answersAt part i := List.mem_filterMap.2 ⟨_, ha, rfl⟩
  rw [hanswers] at hmem
  cases hmem

/-! ## The end of the course -/

variable {setup : Setup} {t : Task}

/-- A report tells when a container began. -/
lemma begunAt?_report (setup : Setup) (earlier : String → Nat) (t : Task) (i : Nat) :
    begunAt? (setup.report earlier t).trace i = ((setup.final earlier t).slots[i]?).map (·.begun) := by
  rw [← (invariant_final setup earlier t).begunAt?_eq, begunAt?, report_eq, momentsAt_report]
  rfl

/-- A report tells when a container finished. -/
lemma finishedAt?_report (setup : Setup) (earlier : String → Nat) (t : Task) (i : Nat) :
    finishedAt? (setup.report earlier t).trace i = (setup.final earlier t).endedAt? i := by
  have hended := (invariant_final setup earlier t).finishedAt?_eq i
  rw [finishedAt?, report_eq, momentsAt_report]
  exact hended

/-- At the end of the course those containers have begun for which all have ended that must have left the
window. -/
lemma exists_slot_final (hn : 0 < setup.limits.concurrency) {j : Nat} (hj : j < t.pod.containers.length)
    (hended : ∀ i, i + setup.limits.concurrency ≤ j →
      ((setup.final earlier t).endedAt? i).isSome = true) :
    ∃ slot, (setup.final earlier t).slots[j]? = some slot := by
  by_contra hnone
  have hlength : (setup.final earlier t).slots.length ≤ j := by
    by_contra hlt
    exact hnone ⟨_, List.getElem?_eq_getElem (Nat.not_le.1 hlt)⟩
  have hqueue : (setup.final earlier t).queue ≠ [] := fun hnil => by
    have hall := congrArg List.length (map_container_final hnil)
    rw [List.length_map] at hall
    omega
  have hfull := (stopped_final setup earlier t).full.resolve_left hqueue
  have hroom := (State.hasRoom_iff (s := setup.final earlier t) hn).2 fun i hi => hended i (by omega)
  rw [show (setup.context t.pod).limits = setup.limits from rfl, hroom] at hfull
  cases hfull

/-- A container begins exactly when its position comes into the window. -/
theorem begunAt?_eq_some_iff (hn : 0 < setup.limits.concurrency) {j : Nat}
    (hj : j < t.pod.containers.length) (b : Nat) :
    begunAt? (setup.report earlier t).trace j = some b ↔
      Opens (finishedAt? (setup.report earlier t).trace) setup.limits.concurrency j b := by
  have htimes : finishedAt? (setup.report earlier t).trace = (setup.final earlier t).endedAt? :=
    funext (finishedAt?_report setup earlier t)
  have hwindowed : (setup.context t.pod).Windowed (setup.final earlier t) := windowed_steps hn earlier t _
  rw [begunAt?_report, htimes]
  constructor
  · intro hbegun
    obtain ⟨slot, hslot, rfl⟩ := Option.map_eq_some_iff.1 hbegun
    exact hwindowed.begun j slot hslot
  · intro hopens
    obtain ⟨slot, hslot⟩ := exists_slot_final hn hj fun i hi => Opens.isSome hopens hi
    rw [hslot, Option.map_some, Opens.unique (hwindowed.begun j slot hslot) hopens]

/-- A container begins only after all those have finished that are a window ahead of it. -/
theorem finished_before_report (hn : 0 < setup.limits.concurrency) {i j : Nat}
    (hij : i + setup.limits.concurrency ≤ j)
    (hbegun : (begunAt? (setup.report earlier t).trace j).isSome = true) :
    (finishedAt? (before (setup.report earlier t).trace j) i).isSome = true := by
  rw [begunAt?_report, Option.isSome_map] at hbegun
  obtain ⟨slot, hslot⟩ := Option.isSome_iff_exists.1 hbegun
  obtain ⟨notes, htrace, -⟩ := report_trace_eq t.pod.id (setup.final earlier t)
  obtain ⟨pre, htold⟩ := (invariant_final setup earlier t).told j slot hslot
  have hbefore : before (setup.report earlier t).trace j = before (setup.final earlier t).trace j := by
    rw [htold.before_eq List.prefix_rfl, report_eq]
    exact htold.before_eq (htrace ▸ List.prefix_append _ notes)
  rw [hbefore]
  exact finished_before_steps hn earlier t _ i j hij (List.getElem?_eq_some_iff.1 hslot).1

end Context

/-! ## Setups made with a policy -/

/-- The setups that a policy leads to: the one for the policy, and those of drafts that hold it. -/
inductive Setup.MadeWith : Policy → Setup → Prop where
  | ofPolicy (checker : Checker) (store : Store) (resolver : Annotations → Resolver) (p : Policy) :
      MadeWith p (.ofPolicy checker store resolver p)
  | build {d : Draft} {setup : Setup} (h : d.build = .ok setup) : MadeWith d.policy setup

/-- A setup works on as many containers at a time as its policy says, and at least on one. -/
lemma Setup.MadeWith.concurrency_eq {p : Policy} {setup : Setup} (h : MadeWith p setup) :
    setup.limits.concurrency = max 1 p.maxConcurrent.toNat := by
  cases h with
  | ofPolicy _ _ _ _ => rfl
  | @build d _ hbuild =>
    unfold Draft.build at hbuild
    split at hbuild
    · cases hbuild
    · cases hbuild
    · obtain rfl := Except.ok.inj hbuild
      rfl

/-- Whatever the number `n` of containers that a policy allows at a time, one at the least, in every run,
also in one that never comes to its end: the containers begin in their order; at no point of the trace are
more than `n` under way, and so no more than `n` checks are in flight; each begins at the start if it is one
of the first `n`, and else exactly when the last one finishes of all those up to `n` positions before it;
and nothing happens to it before those have finished, which for `n = 1` are all containers before it. -/
theorem begins_report {p : Policy} {setup : Setup} (hmade : Setup.MadeWith p setup)
    (earlier : String → Nat) (t : Task) :
    let trace := (setup.report earlier t).trace
    let n := max 1 p.maxConcurrent.toNat
    attempts trace <+: t.pod.containers.zipIdx.map (fun (c, i) => (some i, c.name)) ∧
    (∀ part, part <+: trace →
      ((Finset.range t.pod.containers.length).filter (underWay part ·)).card ≤ n ∧
      ((Finset.range t.pod.containers.length).filter (inFlight part ·)).card ≤ n) ∧
    (∀ j < t.pod.containers.length, ∀ time, begunAt? trace j = some time ↔
      (j < n ∧ time = 0) ∨ (n ≤ j ∧ IsLastUpTo (finishedAt? trace) (j - n) time)) ∧
    ∀ i j, i + n ≤ j → (begunAt? trace j).isSome = true →
      (finishedAt? (before trace j) i).isSome = true := by
  intro trace n
  have hconcurrency : setup.limits.concurrency = n := hmade.concurrency_eq
  have hn : 0 < setup.limits.concurrency := by
    rw [hconcurrency]
    exact Nat.le_max_left 1 _
  have hbefore : ∀ i j, i + n ≤ j → (begunAt? trace j).isSome = true →
      (finishedAt? (before trace j) i).isSome = true := fun i j hij hbegun =>
    Context.finished_before_report hn (hconcurrency ▸ hij) hbegun
  refine ⟨?_, fun part hpart => ?_, fun j hj time => ?_, hbefore⟩
  · have hattempts : attempts trace =
        Context.attemptsOn ((setup.final earlier t).slots.map (·.container)) :=
      (attempts_report t.pod.id _).trans (Context.attempts_steps earlier t _)
    rw [hattempts, ← (Context.invariant_final setup earlier t).containers_eq, List.zipIdx_append,
      List.map_append]
    exact List.prefix_append _ _
  · have hcard := card_underWay_le hbefore hpart t.pod.containers.length
    refine ⟨hcard, le_trans (Finset.card_le_card fun i hi => ?_) hcard⟩
    have hmoments : momentsAt part i <+: momentsAt (setup.final earlier t).trace i := by
      rw [← momentsAt_report t.pod.id]
      exact isPrefix_momentsAt hpart i
    rw [Finset.mem_filter] at hi ⊢
    exact ⟨hi.1, (Context.invariant_final setup earlier t).underWay_of_inFlight hmoments hi.2⟩
  · rw [← hconcurrency]
    exact Context.begunAt?_eq_some_iff hn hj time

/-- The crowded pod, two containers at a time: the second one finishes early and keeps its place, so that the
third one begins only when the first one passes its deadline. -/
theorem begins_report_crowded :
    let d : Draft :=
      { checker := some crowdedSetup.checker
        store := some crowdedSetup.store
        resolver := crowdedSetup.resolver
        policy := { checkByDefault := true, maxConcurrent := 2 }
        deadline := some (.ofMillis 25) }
    let trace := (crowdedSetup.report (fun _ => 0) crowdedTask).trace
    Setup.MadeWith d.policy crowdedSetup ∧
    finishedAt? trace 0 = some 25 ∧ finishedAt? trace 1 = some 10 ∧ begunAt? trace 2 = some 25 := by
  intro d trace
  have hmade : Setup.MadeWith d.policy crowdedSetup := .build rfl
  have hfirst : finishedAt? trace 0 = some 25 := by decide +kernel
  have hsecond : finishedAt? trace 1 = some 10 := by decide +kernel
  obtain ⟨-, -, hbegins, -⟩ := begins_report hmade (fun _ => 0) crowdedTask
  have hlast : IsLastUpTo (finishedAt? trace) 0 25 := by
    refine ⟨fun i hi => ?_, 0, Nat.le_refl 0, hfirst⟩
    obtain rfl : i = 0 := Nat.le_zero.1 hi
    exact ⟨25, hfirst, Nat.le_refl 25⟩
  exact ⟨hmade, hfirst, hsecond, (hbegins 2 (by decide) 25).2 (.inr ⟨by decide, hlast⟩)⟩

end Freshness.Sync
