import Freshness.Proofs.Sync.Alone
import Freshness.Proofs.Sync.Occupancy

/-!
# The deadline of a check

A check is called when its container begins, and its deadline counts from that call.  Of the reply and the
deadline the one that is due first ends the check, and the reply if both are due at one time.  So a check that
nobody cancels lasts as long as its conduct and the deadline say (`Conduct.millisWithin`), wherever its
container stands in the pod and however long it waited for its place in the window.

`Story.time_eq` shows this for what happens to one container.  `deadline_report` says of a whole run when each
check is called, when and with which answer it ends, and what of it the store hears; no container is left out.
-/

namespace Freshness

/-- The milliseconds for which a check lasts that nobody cancels: up to its own answer, unless the deadline passes
before. -/
def Conduct.millisWithin (k : Conduct) (deadline : Duration) : Nat :=
  if k.answer.isSome ∧ k.delay ≤ deadline.ceilMillis then k.delay else deadline.ceilMillis

namespace Conduct

variable {k : Conduct} {d : Duration}

/-- A check that replies in time lasts until it replies. -/
lemma millisWithin_of_answer {a : Answer} (hanswer : k.answer = some a) (hintime : k.delay ≤ d.ceilMillis) :
    k.millisWithin d = k.delay := by
  unfold millisWithin
  rw [hanswer]
  exact if_pos ⟨rfl, hintime⟩

/-- A check that does not reply in time lasts until its deadline passes. -/
lemma millisWithin_of_late (h : k.answer = none ∨ d.ceilMillis < k.delay) :
    k.millisWithin d = d.ceilMillis := by
  unfold millisWithin
  refine if_neg ?_
  rintro ⟨hanswer, hintime⟩
  rcases h with hnone | hlate
  · rw [hnone] at hanswer
    cases hanswer
  · omega

end Conduct

namespace Sync

/-- The calls of a check for the container at a position. -/
def callsAt (trace : List Moment) (i : Nat) : List Moment :=
  (momentsAt trace i).filter (·.event.calledName?.isSome)

/-- A report says of the container at a position that its check was called once, at a time, within the spans of
the container, with options, and ended so many milliseconds later with an answer: the container finished then,
came to the ending that the answer makes of it, and the store heard what this ending calls for. -/
structure Context.ChecksIn (ctx : Context) (r : Report) (i : Nat) (c : Container) (o : Options)
    (called millis : Nat) (a : Answer) : Prop where
  calls : callsAt r.trace i = [⟨called, some i, ctx.spansOf c, .checkCalled c o⟩]
  answers : answersAt r.trace i = [a]
  finished : finishedAt? r.trace i = some (called + millis)
  ending : r.endings.bind (·[i]?) = some (endingOf c a)
  changes : changesIn (momentsAt r.trace i) = (Completion.change? ⟨ctx.key c, endingOf c a⟩).toList

namespace Context

variable {ctx : Context} {c : Container} {begun n now time : Nat} {o : Options} {d : Duration} {e : Ending}

/-! ## When a check ends -/

/-- A check that goes on waiting ends only if its deadline is due. -/
lemma of_await_eq_ended {check : Check} (hd : ctx.limits.deadline = some d)
    (hdeadline : check.deadline = ctx.limits.deadline.map (begun + ·.ceilMillis))
    (h : (ctx.await now c check).progress = .ended time e) : time = now ∧ begun + d.ceilMillis ≤ now := by
  unfold await at h
  split at h
  · rename_i hdue
    rw [hdeadline, hd, Option.map_some, Option.any_some, decide_eq_true_iff] at hdue
    exact ⟨(Progress.ended.inj h).1.symm, hdue⟩
  · cases h

/-- A check that is done with waiting in time ends at once with an answer, or when its deadline is due. -/
lemma time_of_conclude_eq_ended {check : Check} (hd : ctx.limits.deadline = some d)
    (hconduct : check.conduct = ctx.checker.call c o n)
    (hdeadline : check.deadline = ctx.limits.deadline.map (begun + ·.ceilMillis))
    (hnow : now = begun + (ctx.checker.call c o n).delay)
    (hintime : (ctx.checker.call c o n).delay ≤ d.ceilMillis)
    (h : (ctx.conclude now c check).progress = .ended time e) :
    time = begun + (ctx.checker.call c o n).millisWithin d := by
  simp only [conclude, Turn.after] at h
  split at h
  · rename_i a hanswer
    rw [hconduct] at hanswer
    rw [Conduct.millisWithin_of_answer hanswer hintime, ← hnow]
    exact (Progress.ended.inj h).1.symm
  · rename_i hanswer
    rw [hconduct] at hanswer
    have hstill : ({ check with wake := none } : Check).deadline = _ := hdeadline
    obtain ⟨htime, hdue⟩ := of_await_eq_ended hd hstill h
    rw [Conduct.millisWithin_of_late (.inl hanswer)]
    omega

/-- A check that ends in the turn in which it is called. -/
lemma time_of_callCheck_eq_ended (hd : ctx.limits.deadline = some d)
    (h : (ctx.callCheck begun c o n).progress = .ended time e) :
    time = begun + (ctx.checker.call c o n).millisWithin d := by
  simp only [callCheck, Turn.after] at h
  split at h
  · rename_i hdelay
    have hnow : begun = begun + (ctx.checker.call c o n).delay := by omega
    exact time_of_conclude_eq_ended hd rfl rfl hnow (hdelay ▸ Nat.zero_le _) h
  · -- only a deadline of zero is due as soon as the check is called
    rename_i hdelay
    obtain ⟨htime, hdue⟩ := of_await_eq_ended hd rfl h
    have hlate : d.ceilMillis < (ctx.checker.call c o n).delay := by omega
    rw [Conduct.millisWithin_of_late (.inr hlate)]
    omega

variable {i : Nat} {ms : List Moment}

/-- In a story without cancellation a check lasts as long as its conduct and its deadline say, counted from when
its container began. -/
theorem Story.time_eq (h : ctx.Story false i c begun n false ms (.ended time e))
    (henabled : ctx.resolver.isEnabled ctx.limits.checkByDefault c.name = true)
    (hoptions : ctx.resolver.options c.name = .ok o) (hd : ctx.limits.deadline = some d) :
    time = begun + (ctx.checker.call c o n).millisWithin d := by
  generalize hp : Progress.ended time e = p at h
  -- the turn that ended the check is the last one of the story
  cases h with
  | begin =>
    rw [start_of_options_eq_ok begun false n henabled hoptions] at hp
    exact time_of_callCheck_eq_ended hd hp.symm
  | @resume ms check u t spans hstory ht =>
    obtain ⟨-, o', -, hcheck⟩ := hstory.checkOf
    obtain rfl := Except.ok.inj (hoptions.symm.trans hcheck.options)
    have hdue : check.deadline = some (begun + d.ceilMillis) := by
      rw [hcheck.deadline, hd]
      rfl
    cases ht with
    | giveUp hcancelled => cases hcancelled
    | wake hwake hintime =>
      have hu : u = begun + (ctx.checker.call c o n).delay := hcheck.wake u hwake
      have hle : u ≤ begun + d.ceilMillis := hintime _ hdue
      exact time_of_conclude_eq_ended hd hcheck.conduct hcheck.deadline hu (by omega) hp.symm
    | lapse hdeadline hlate =>
      have htime : time = u := (Progress.ended.inj hp).1
      have hu : u = begun + d.ceilMillis := Option.some.inj (hdeadline.symm.trans hdue)
      rw [htime, hu, Conduct.millisWithin_of_late]
      cases hwake : check.wake with
      | none => exact .inl (hcheck.silent hwake)
      | some w =>
        have hw : w = begun + (ctx.checker.call c o n).delay := hcheck.wake w hwake
        have hlt : u < w := hlate w hwake
        exact .inr (by omega)

/-! ## When a check is called -/

/-- The turns of a check that is under way call nothing. -/
lemma Resumes.calledName?_eq_none {x : Bool} {check : Check} {t : Turn}
    (h : ctx.Resumes x c check time t) : ∀ ev ∈ t.events, ev.calledName? = none := by
  intro ev hmem
  cases h with
  | giveUp _ => exact calledName?_of_mem_settle hmem
  | wake _ _ => exact calledName?_of_mem_conclude hmem
  | lapse _ _ => exact calledName?_of_mem_settle hmem

/-- A turn that calls nothing makes no moment of a call. -/
lemma filter_calledName?_moments_eq_nil {t : Turn} (h : ∀ ev ∈ t.events, ev.calledName? = none)
    (time i : Nat) (spans : List Log.Span) :
    (t.moments time i spans).filter (·.event.calledName?.isSome) = [] := by
  refine List.filter_eq_nil_iff.2 fun m hm hcalled => ?_
  obtain ⟨ev, hev, rfl⟩ := List.mem_map.1 hm
  rw [h ev hev] at hcalled
  cases hcalled

/-- In a story of a container that begins before the work is cancelled its check is called once, as it begins. -/
theorem Story.filter_calledName?_eq {x : Bool} {p : Progress} (h : ctx.Story x i c begun n false ms p)
    (henabled : ctx.resolver.isEnabled ctx.limits.checkByDefault c.name = true)
    (hoptions : ctx.resolver.options c.name = .ok o) :
    ∃ spans, ms.filter (·.event.calledName?.isSome) = [⟨begun, some i, spans, .checkCalled c o⟩] := by
  induction h with
  | @begin spans =>
    refine ⟨spans, ?_⟩
    have hstart : ctx.start begun false n c = (ctx.callCheck begun c o n).after (ctx.opening c) :=
      start_of_options_eq_ok begun false n henabled hoptions
    obtain ⟨rest, hevents, hrest⟩ := ctx.exists_events_callCheck begun c o n
    have hnone : (rest.map fun ev => (⟨begun, some i, spans, ev⟩ : Moment)).filter
        (·.event.calledName?.isSome) = [] :=
      filter_calledName?_moments_eq_nil (t := ⟨rest, (ctx.callCheck begun c o n).progress⟩) hrest begun i spans
    have hopening : ((ctx.opening c).map fun ev => (⟨begun, some i, spans, ev⟩ : Moment)).filter
        (·.event.calledName?.isSome) = [] := rfl
    rw [hstart, Turn.moments, Turn.after, hevents, List.map_append, List.filter_append, hopening, List.nil_append,
      List.map_cons, List.filter_cons_of_pos (by rfl), hnone]
  | resume _ ht ih =>
    obtain ⟨spans, hcalled⟩ := ih
    refine ⟨spans, ?_⟩
    rw [List.filter_append, hcalled, filter_calledName?_moments_eq_nil ht.calledName?_eq_none, List.append_nil]

/-! ## Containers that have come to an ending -/

variable {earlier : String → Nat} {trace : List Moment}

/-- A check that nobody cancels is called once, when its container begins, within the spans of the container, and
ends after as long as its conduct and its deadline say. -/
lemma Concluded.exists_called {containers : List Container} (h : ctx.Concluded earlier trace i c e)
    (hspans : ∀ m ∈ trace, ctx.InSpans containers m) (hc : containers[i]? = some c)
    (hquiet : cancelledIn trace = false)
    (henabled : ctx.resolver.isEnabled ctx.limits.checkByDefault c.name = true)
    (hoptions : ctx.resolver.options c.name = .ok o) (hd : ctx.limits.deadline = some d) :
    ∃ called, begunAt? trace i = some called ∧
      callsAt trace i = [⟨called, some i, ctx.spansOf c, .checkCalled c o⟩] ∧
      finishedAt? trace i = some (called +
        (ctx.checker.call c o (earlier c.name + callsIn (before trace i) c.name)).millisWithin d) := by
  obtain ⟨begun, time, hstory⟩ := h
  rw [hquiet, cancelledIn_before hquiet i] at hstory
  obtain ⟨_, answer, rest, hms⟩ := hstory.exists_cons
  obtain ⟨spans, hcalls⟩ := hstory.filter_calledName?_eq henabled hoptions
  have htime := hstory.time_eq henabled hoptions hd
  have hmem : (⟨begun, some i, spans, .checkCalled c o⟩ : Moment) ∈ trace := by
    have hcalled : _ ∈ (momentsAt trace i).filter _ := hcalls ▸ List.mem_singleton_self _
    exact List.mem_of_mem_filter (List.mem_of_mem_filter hcalled)
  obtain rfl : spans = ctx.spansOf c := hspans _ hmem i c rfl hc
  refine ⟨begun, ?_, hcalls, ?_⟩
  · unfold begunAt?
    rw [hms]
    rfl
  · rw [← htime]
    exact hstory.map_time_find?_isFinish

end Context

/-! ## The whole run -/

/-- **The deadline of checks.**  Let each check have a deadline of whole milliseconds, zero included, and let
the work on a pod not be cancelled.  Then every container is attempted, in order, and comes to an ending, and
the result is made of the failures among these.  A container that is to be checked has its check called once,
exactly when its position comes into the window.  If the check replies so many milliseconds later, with the
deadline or before it, then the container comes to the ending of that reply at that time.  If it replies later,
or never, then the container fails once the deadline has passed since the call, and the store hears nothing of
it. -/
theorem deadline_report {setup : Setup} {earlier : String → Nat} {t : Task} {millis : Nat}
    (hn : 0 < setup.limits.concurrency) (hdeadline : setup.limits.deadline = some (.ofMillis millis))
    (hquiet : cancelledIn (setup.report earlier t).trace = false) :
    let r := setup.report earlier t
    let ctx := setup.context t.pod
    attempts r.trace = t.pod.containers.zipIdx.map (fun (c, i) => (some i, c.name)) ∧
    (∃ es, r.endings = some es ∧ es.length = t.pod.containers.length ∧
      r.result? = some (if (Report.failuresOf es).isEmpty then .ok ()
        else .error ⟨⟨t.pod.namespaceName.getD "default", t.pod.name.getD ""⟩, Report.failuresOf es⟩)) ∧
    ∀ i c o, t.pod.containers[i]? = some c → ctx.resolver.isEnabled ctx.limits.checkByDefault c.name = true →
      ctx.resolver.options c.name = .ok o →
      let conduct := ctx.checker.call c o (earlier c.name + callsIn (before r.trace i) c.name)
      ∃ called, Opens (finishedAt? r.trace) setup.limits.concurrency i called ∧
        (∀ a, conduct.answer = some a → conduct.delay ≤ millis →
          ctx.ChecksIn r i c o called conduct.delay a) ∧
        (conduct.answer = none ∨ millis < conduct.delay →
          ctx.ChecksIn r i c o called millis (.failed (.deadlineExceeded (.ofMillis millis))) ∧
          r.endings.bind (·[i]?) = some (.failed (.check c.name (.deadlineExceeded (.ofMillis millis)))) ∧
          changesIn (momentsAt r.trace i) = []) := by
  intro r ctx
  have hends : r.StartedChecksEnd :=
    Context.startedChecksEnd hn (.inl (by rw [hdeadline]; exact Option.some_ne_none _))
  obtain ⟨es, hes⟩ := Context.exists_endings hn hends
  obtain ⟨hlength, hconcluded⟩ := Context.concluded_of_endings_eq_some hes
  have hlimit : ctx.limits.deadline = some (.ofMillis millis) := hdeadline
  refine ⟨attempts_report_of_endings hes, ⟨es, hes, hlength, result?_report_of_endings hes⟩, ?_⟩
  intro i c o hc henabled hoptions conduct
  obtain ⟨e, he⟩ := Context.exists_ending_of_length hlength hc
  have hown : ctx.Concluded earlier r.trace i c e := hconcluded i c e hc he
  have hspans := Context.spans_report setup earlier t
  obtain ⟨called, hbegun, hcalls, hfinished⟩ :=
    hown.exists_called hspans hc hquiet henabled hoptions hlimit
  have hi : i < t.pod.containers.length := (List.getElem?_eq_some_iff.1 hc).1
  -- the answer and the time of the check make all of it
  have hchecks : ∀ a, conduct.answerWithin? ctx.limits.deadline = some a →
      ctx.ChecksIn r i c o called (conduct.millisWithin (.ofMillis millis)) a := fun a ha => by
    obtain ⟨a', hanswers, rfl, ha'⟩ := hown.answerWithin?_eq hquiet henabled hoptions
    obtain rfl := Option.some.inj (ha.symm.trans ha')
    refine ⟨hcalls, hanswers, hfinished, ?_, hown.changesIn_momentsAt⟩
    rw [hes]
    exact he
  have hopens := (Context.begunAt?_eq_some_iff hn hi called).1 hbegun
  refine ⟨called, hopens, fun a ha hintime => ?_, fun hlate => ?_⟩
  · have hle : conduct.delay ≤ (Duration.ofMillis millis).ceilMillis := by rwa [Duration.ceilMillis_ofMillis]
    have hanswer : conduct.answerWithin? ctx.limits.deadline = some a :=
      Conduct.answerWithin?_of_answer ha fun d hd => by
        obtain rfl := Option.some.inj (hlimit.symm.trans hd)
        exact hle
    have hmillis : conduct.millisWithin (.ofMillis millis) = conduct.delay :=
      Conduct.millisWithin_of_answer ha hle
    have hall := hchecks a hanswer
    rwa [hmillis] at hall
  · have hlate' : conduct.answer = none ∨ (Duration.ofMillis millis).ceilMillis < conduct.delay := by
      rwa [Duration.ceilMillis_ofMillis]
    have hanswer : conduct.answerWithin? ctx.limits.deadline =
        some (.failed (.deadlineExceeded (.ofMillis millis))) := by
      rw [hlimit]
      exact Conduct.answerWithin?_of_late hlate'
    have hmillis : conduct.millisWithin (.ofMillis millis) = millis := by
      rw [Conduct.millisWithin_of_late hlate', Duration.ceilMillis_ofMillis]
    have hall := hchecks _ hanswer
    rw [hmillis] at hall
    exact ⟨hall, hall.ending, hall.changes⟩

/-- One container at a time, twenty-five milliseconds for a check: one check that never ends, one that replies just
with its deadline, and one that replies right after it. -/
def tightSetup : Setup where
  checker := Script.checker
    ⟨[("hung", [{ answer := .never }]), ("edge", [{ delay := 25, answer := .made }]),
      ("late", [{ delay := 26, answer := .made }])]⟩
  store := .empty
  resolver _ := .ofTables [] [] []
  limits := ⟨true, some (.ofMillis 25), 1⟩

/-- A pod with a check that never ends before the others. -/
def tightTask : Task where
  pod := { name := some "web-0", containers := ["hung", "edge", "late"].map (⟨·, none⟩) }

/-- The check that never ends keeps the others waiting, but the reply at the deadline still counts, and the one
after it does not. -/
theorem deadline_report_tight :
    let r := tightSetup.report (fun _ => 0) tightTask
    let ctx := tightSetup.context tightTask.pod
    0 < tightSetup.limits.concurrency ∧ tightSetup.limits.deadline = some (.ofMillis 25) ∧
    cancelledIn r.trace = false ∧
    ctx.ChecksIn r 0 ⟨"hung", none⟩ {} 0 25 (.failed (.deadlineExceeded (.ofMillis 25))) ∧
    ctx.ChecksIn r 1 ⟨"edge", none⟩ {} 25 25 (.found (Script.madeVerdict "")) ∧
    ctx.ChecksIn r 2 ⟨"late", none⟩ {} 50 25 (.failed (.deadlineExceeded (.ofMillis 25))) := by
  intro r ctx
  have hn : 0 < tightSetup.limits.concurrency := by decide
  have hquiet : cancelledIn r.trace = false := by decide +kernel
  obtain ⟨-, -, hall⟩ := deadline_report hn rfl hquiet
  have hopens : ∀ j < 3, Opens (finishedAt? r.trace) 1 j (25 * j) := fun j hj =>
    (Context.begunAt?_eq_some_iff hn hj (25 * j)).1 (by decide +kernel +revert)
  obtain ⟨a, hopenA, -, hlateA⟩ := hall 0 ⟨"hung", none⟩ {} rfl rfl rfl
  obtain ⟨b, hopenB, hreplyB, -⟩ := hall 1 ⟨"edge", none⟩ {} rfl rfl rfl
  obtain ⟨c, hopenC, -, hlateC⟩ := hall 2 ⟨"late", none⟩ {} rfl rfl rfl
  obtain rfl : a = 0 := hopenA.unique (hopens 0 (by decide))
  obtain rfl : b = 25 := hopenB.unique (hopens 1 (by decide))
  obtain rfl : c = 50 := hopenC.unique (hopens 2 (by decide))
  have hhung := hlateA (.inl (by decide +kernel))
  have hedge := hreplyB (.found (Script.madeVerdict "")) (by decide +kernel) (by decide +kernel)
  have hlate := hlateC (.inr (by decide +kernel))
  exact ⟨hn, rfl, hquiet, hhung.1, hedge, hlate.1⟩

end Sync

end Freshness
