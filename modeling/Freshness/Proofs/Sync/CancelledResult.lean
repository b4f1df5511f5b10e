import Freshness.Proofs.Sync.Cancellation
import Freshness.Proofs.Sync.History
import Freshness.Proofs.Sync.Occupancy

/-!
# The result of cancelled work

Once the work on a pod is cancelled it comes to its end, whatever its checks would still wait for
(`ended_final_of_cancelled`).  `cancelled_report` tells how: no checker is called any more, no container is
left out, and each container without an answer ends as cancelled and leaves the store alone, while disabled
containers and those with wrong annotations end as they always do.  The one exception is the container whose
check has cancelled the work itself: it ends with the last word of its check; `not_forall_eq_cancelled` shows
that this need not be the answer of the check.
-/

namespace Freshness.Sync

namespace Context

variable {setup : Setup} {earlier : String → Nat} {t : Task} {es : List Ending} {i : Nat} {c : Container}
  {e : Ending}

/-! ## The end of cancelled work -/

/-- Cancelled work comes to its end: no container is left and no check is under way. -/
theorem ended_final_of_cancelled (hn : 0 < setup.limits.concurrency)
    (hc : (setup.final earlier t).cancelled = true) :
    (setup.final earlier t).queue = [] ∧
      ∀ slot ∈ (setup.final earlier t).slots, slot.isWaiting = false := by
  have hstop := stopped_final setup earlier t
  have hended : ∀ slot ∈ (setup.final earlier t).slots, slot.isWaiting = false := by
    intro slot hslot
    obtain ⟨i, hi⟩ := List.mem_iff_getElem?.1 hslot
    exact isWaiting_eq_false_of_firstWaiting? (hstop.quiet hc) hi
  refine ⟨hstop.full.resolve_right fun hfull => ?_, hended⟩
  obtain ⟨slot, hslot, hwaiting⟩ := exists_isWaiting_of_not_hasRoom hn hfull
  rw [hended slot hslot] at hwaiting
  cases hwaiting

/-! ## After the cancellation -/

/-- In a report too, all that happens after the cancellation is what may happen then. -/
theorem afterCancellation_report (setup : Setup) (earlier : String → Nat) (t : Task) :
    (setup.context t.pod).AfterCancellation earlier t.pod.containers (setup.report earlier t).trace := by
  obtain ⟨notes, htrace, hnotes⟩ := report_trace_eq t.pod.id (setup.final earlier t)
  have hfinal : (setup.context t.pod).AfterCancellation earlier t.pod.containers
      (setup.final earlier t).trace := afterCancellation_steps earlier t _
  intro m hm p hp
  cases hc : (setup.final earlier t).cancelled with
  | false =>
    rw [report_eq, cancellation?_eq_none ((cancelledIn_report _ _).trans hc)] at hm
    cases hm
  | true =>
    rw [report_eq, htrace] at hm hp ⊢
    rw [cancellation?_append_of_cancelled hc] at hm
    rw [sinceCancelled_append_of_cancelled hc] at hp
    rcases List.mem_append.1 hp with hcourse | hnote
    · exact (hfinal m hm p hcourse).mono (List.prefix_append _ _)
    · have hnote := (hnotes p hnote).2
      cases he : p.event <;> rw [he] at hnote
      case counted o => exact ⟨by rw [he]; rfl, fun i a _ ha => by rw [he] at ha; cases ha⟩
      case logged r => exact ⟨by rw [he]; rfl, fun i a _ ha => by rw [he] at ha; cases ha⟩
      all_goals cases hnote

/-- An answer that a container had not before the cancellation is the one that was left to its check. -/
lemma answeredAfter_of_mem_answersAt {m : Moment} {a : Answer}
    (hm : cancellation? (setup.report earlier t).trace = some m)
    (huntil : answersAt (untilCancelled (setup.report earlier t).trace) i = [])
    (ha : a ∈ answersAt (setup.report earlier t).trace i) :
    (setup.context t.pod).AnsweredAfter earlier t.pod.containers (setup.report earlier t).trace m i a := by
  obtain ⟨hcancel, hsplit⟩ := eq_append_of_cancellation? hm
  obtain ⟨e, he, hanswer⟩ := List.mem_filterMap.1 ha
  obtain ⟨p, hp, rfl⟩ := List.mem_map.1 he
  obtain ⟨hmem, hposition⟩ := List.mem_filter.1 hp
  have hevent : p.event = .checkEnded a := Event.answer?_eq_some_iff.1 hanswer
  rw [hsplit] at hmem
  rcases List.mem_append.1 hmem with hbefore | hafter
  · have hearly : a ∈ answersAt (untilCancelled (setup.report earlier t).trace) i :=
      List.mem_filterMap.2 ⟨p.event, mem_eventsAt hbefore (beq_iff_eq.1 hposition), hanswer⟩
    rw [huntil] at hearly
    cases hearly
  · rcases List.mem_cons.1 hafter with rfl | hsince
    · rw [hevent] at hcancel
      cases hcancel
    · exact (afterCancellation_report setup earlier t m hm p hsince).answered i a (beq_iff_eq.1 hposition) hevent

/-- A container that is not to be checked leaves no entry, whatever happens to others of its name. -/
lemma get?_throughStore_of_disabled (hes : (setup.report earlier t).endings = some es)
    (hc : t.pod.containers[i]? = some c)
    (hdisabled : (setup.context t.pod).resolver.isEnabled (setup.context t.pod).limits.checkByDefault c.name
      = false) (store : Store) :
    (throughStore store (setup.report earlier t).trace).1.get? ((setup.context t.pod).key c) = none := by
  obtain ⟨hlength, hconcluded⟩ := concluded_of_endings_eq_some hes
  have halike : ∀ (j : Nat) (d : Container) (e : Ending), t.pod.containers[j]? = some d → es[j]? = some e →
      d.name = c.name → e = .disabled := by
    intro j d e hd he hname
    obtain ⟨begun, time, hstory⟩ := hconcluded j d e hd he
    exact hstory.account.eq_disabled (hname ▸ hdisabled)
  obtain ⟨e, he⟩ := exists_ending_of_length hlength hc
  have hlast : lastSettled? ((setup.context t.pod).key c) ((setup.context t.pod).completions
      t.pod.containers (setup.report earlier t).trace) = some .disabled := by
    refine lastSettled?_eq_some rfl ?_ fun p hp hkey => ?_
    · have hown := (hconcluded i c _ hc he).completions_momentsAt hc
      rw [halike i c _ hc he rfl] at hown
      have hmem : (⟨(setup.context t.pod).key c, .disabled⟩ : Completion) ∈
          (setup.context t.pod).completions t.pod.containers
            (momentsAt (setup.report earlier t).trace i) := by
        rw [hown]
        exact List.mem_singleton_self _
      exact (List.filter_sublist.filterMap _).subset hmem
    · obtain ⟨m, hm, hcompletion⟩ := List.mem_filterMap.1 hp
      obtain ⟨j, d, -, hd, hej, hplace⟩ := exists_of_completion?_eq_some hconcluded hlength hm hcompletion
      exact halike j d _ hd hej (congrArg Store.Key.container (hplace.symm.trans hkey))
  have hchanges := changesIn_eq_completions setup earlier t
  unfold changesIn at hchanges
  rw [throughStore_fst, hchanges, get?_applyAll_filterMap_change?, hlast]

end Context

/-! ## The result -/

/-- Whatever the checks would still do, once the work on a pod is cancelled no checker is called any more, and
the work comes to its end: each container has been attempted in the order of the containers, and the result
is made of their failures in that order.  A disabled container succeeds and leaves no entry in the store, and
one with wrong annotations fails for them.  A container whose check had no answer when the work was cancelled
ends as cancelled and does not change the store, unless its check cancelled the work itself.  That container
comes to the ending of the last word of its check, and changes the store as this ending calls for: the check has
its own answer accepted if it replies without waiting; else it passes its deadline, if this is due at the same
time; and else it ends as cancelled, too. -/
theorem cancelled_report {setup : Setup} {earlier : String → Nat} {t : Task}
    (hn : 0 < setup.limits.concurrency) (hcancelled : cancelledIn (setup.report earlier t).trace = true) :
    let r := setup.report earlier t
    let ctx := setup.context t.pod
    (∀ m ∈ sinceCancelled r.trace, m.event.calledName? = none) ∧
    attempts r.trace = t.pod.containers.zipIdx.map (fun (c, i) => (some i, c.name)) ∧
    ∃ es, r.endings = some es ∧ es.length = t.pod.containers.length ∧
      r.result? = some (if (Report.failuresOf es).isEmpty then .ok ()
        else .error ⟨⟨t.pod.namespaceName.getD "default", t.pod.name.getD ""⟩, Report.failuresOf es⟩) ∧
      ∀ i c e, t.pod.containers[i]? = some c → es[i]? = some e →
        (ctx.resolver.isEnabled ctx.limits.checkByDefault c.name = false →
          e = .disabled ∧ changesIn (momentsAt r.trace i) = [.remove (ctx.key c)] ∧
          ∀ store, (throughStore store r.trace).1.get? (ctx.key c) = none) ∧
        (ctx.resolver.isEnabled ctx.limits.checkByDefault c.name = true →
          (∀ issues, ctx.resolver.options c.name = .error issues →
            e = .failed (.configuration c.name issues) ∧ changesIn (momentsAt r.trace i) = []) ∧
          ∀ o, ctx.resolver.options c.name = .ok o → answersAt (untilCancelled r.trace) i = [] →
            ∃ m, cancellation? r.trace = some m ∧
              (m.position ≠ some i →
                e = .failed (.check c.name .cancelled) ∧ changesIn (momentsAt r.trace i) = []) ∧
              (m.position = some i → ∃ begun, begunAt? r.trace i = some begun ∧
                let conduct := ctx.checker.call c o (earlier c.name + callsIn (before r.trace i) c.name)
                e = Context.endingOf c (ctx.lastWord conduct begun m.time) ∧
                changesIn (momentsAt r.trace i) = (Completion.change? ⟨ctx.key c, e⟩).toList)) := by
  intro r ctx
  have hfinal : (setup.final earlier t).cancelled = true := by
    rw [← cancelledIn_report t.pod.id]
    exact hcancelled
  obtain ⟨m, hm⟩ := exists_cancellation? hcancelled
  obtain ⟨hqueue, hended⟩ := Context.ended_final_of_cancelled hn hfinal
  obtain ⟨es, hes⟩ := Context.exists_endings_of_ended hqueue hended
  obtain ⟨hlength, hconcluded⟩ := Context.concluded_of_endings_eq_some hes
  refine ⟨fun p hp => (Context.afterCancellation_report setup earlier t m hm p hp).uncalled,
    attempts_report_of_endings hes, es, hes, hlength, result?_report_of_endings hes, ?_⟩
  intro i c e hc he
  have hconclusion := hconcluded i c e hc he
  have hchanges := hconclusion.changesIn_momentsAt
  obtain ⟨begun, time, hstory⟩ := hconclusion
  have haccount : ctx.Account c (eventsAt r.trace i) (.ended time e) := hstory.account
  refine ⟨fun hdisabled => ?_, fun henabled => ⟨fun issues hissues => ?_, fun o hoptions huntil => ?_⟩⟩
  · obtain rfl := haccount.eq_disabled hdisabled
    exact ⟨rfl, hchanges, Context.get?_throughStore_of_disabled hes hc hdisabled⟩
  · obtain rfl := haccount.eq_configuration henabled hissues
    exact ⟨rfl, hchanges⟩
  · obtain ⟨a, hanswers, rfl⟩ := haccount.exists_answer henabled hoptions
    have ha : a ∈ answersAt r.trace i := by
      unfold answersAt
      rw [hanswers]
      exact List.mem_singleton_self a
    have hafter : ctx.AnsweredAfter earlier t.pod.containers r.trace m i a :=
      Context.answeredAfter_of_mem_answersAt hm huntil ha
    refine ⟨m, hm, fun hother => ?_, fun hown => ?_⟩
    · obtain rfl := hafter.other hother
      exact ⟨rfl, hchanges⟩
    · obtain ⟨d, o', begun', hd, hoptions', hbegun, rfl⟩ := hafter.own hown
      obtain rfl : c = d := Option.some.inj (hc.symm.trans hd)
      obtain rfl : o = o' := Except.ok.inj (hoptions.symm.trans hoptions')
      exact ⟨begun', hbegun, rfl, hchanges⟩

/-- The crowded pod, cancelled from outside after five milliseconds: the first two checks are given up, and
the fifth container, whose check would have answered at once, is never checked. -/
theorem cancelled_report_crowded :
    let t : Task := { crowdedTask with cancellation := some (.after 5) }
    let r := crowdedSetup.report (fun _ => 0) t
    0 < crowdedSetup.limits.concurrency ∧ cancelledIn r.trace = true ∧
    (∀ m ∈ sinceCancelled r.trace, m.event.calledName? = none) ∧
    ∃ es, r.endings = some es ∧ es[0]? = some (.failed (.check "api" .cancelled)) ∧
      es[2]? = some .disabled ∧ es[4]? = some (.failed (.check "job" .cancelled)) := by
  intro t r
  have hn : 0 < crowdedSetup.limits.concurrency := by decide
  have hcancelled : cancelledIn r.trace = true := by decide +kernel
  obtain ⟨hcalls, -, es, hes, hlength, -, hendings⟩ := cancelled_report hn hcancelled
  -- the work was not cancelled by one of the checks
  have houtside : (cancellation? r.trace).bind (·.position) = none := by decide +kernel
  have hgiven : ∀ i c, t.pod.containers[i]? = some c →
      (crowdedSetup.context t.pod).resolver.isEnabled true c.name = true →
      (crowdedSetup.context t.pod).resolver.options c.name = .ok {} →
      answersAt (untilCancelled r.trace) i = [] → es[i]? = some (.failed (.check c.name .cancelled)) := by
    intro i c hc henabled hoptions huntil
    obtain ⟨e, he⟩ := Context.exists_ending_of_length hlength hc
    obtain ⟨m, hm, hother, -⟩ := ((hendings i c e hc he).2 henabled).2 {} hoptions huntil
    rw [hm, Option.bind_some] at houtside
    have helsewhere : m.position ≠ some i := by
      rw [houtside]
      exact (Option.some_ne_none i).symm
    rw [he, (hother helsewhere).1]
  have hdisabled : es[2]? = some .disabled := by
    obtain ⟨e, he⟩ : ∃ e, es[2]? = some e := Context.exists_ending_of_length hlength rfl
    obtain ⟨hending, -⟩ := (hendings 2 ⟨"old", none⟩ e rfl he).1 (by decide +kernel)
    rw [he, hending]
  exact ⟨hn, hcancelled, hcalls, es, hes,
    hgiven 0 ⟨"api", none⟩ rfl (by decide +kernel) rfl (by decide +kernel), hdisabled,
    hgiven 4 ⟨"job", none⟩ rfl (by decide +kernel) rfl (by decide +kernel)⟩

/-- One check that cancels the work as soon as it is called and never replies, with a deadline that is due
when it is called. -/
def hastySetup : Setup where
  checker := Script.checker ⟨[("a", [{ cancelsFirst := true, answer := .never }])]⟩
  store := .empty
  resolver := .ofAnnotations Pattern.compiler
  limits := ⟨true, some (.ofMillis 0), 1⟩

/-- A pod with one container. -/
def hastyTask : Task where
  pod :=
    { namespaceName := some "apps"
      name := some "web-0"
      containers := [⟨"a", some "repo/a:1"⟩] }

/-- It is not true that each check without an answer at the time of the cancellation ends as cancelled unless
it has cancelled the work itself and replies without waiting: the check of `hastySetup` passes its
deadline. -/
theorem not_forall_eq_cancelled :
    ¬∀ (setup : Setup) (earlier : String → Nat) (t : Task) (es : List Ending) (i : Nat) (c : Container)
      (e : Ending) (o : Options),
      let r := setup.report earlier t
      let ctx := setup.context t.pod
      let conduct := ctx.checker.call c o (earlier c.name + callsIn (before r.trace i) c.name)
      0 < setup.limits.concurrency → cancelledIn r.trace = true → r.endings = some es →
      t.pod.containers[i]? = some c → es[i]? = some e →
      ctx.resolver.isEnabled ctx.limits.checkByDefault c.name = true → ctx.resolver.options c.name = .ok o →
      answersAt (untilCancelled r.trace) i = [] →
      e = .failed (.check c.name .cancelled) ∨
        conduct.repliesOnCancelling = true ∧ conduct.answer.map (Context.endingOf c) = some e := by
  intro h
  have hexceeded : (hastySetup.report (fun _ => 0) hastyTask).endings =
      some [.failed (.check "a" (.deadlineExceeded (.ofMillis 0)))] := by decide +kernel
  have hends := h hastySetup (fun _ => 0) hastyTask _ 0 ⟨"a", some "repo/a:1"⟩ _ {} (by decide)
    (by decide +kernel) hexceeded rfl rfl (by decide +kernel) rfl (by decide +kernel)
  rcases hends with hcancelled | ⟨hreplies, -⟩
  · cases hcancelled
  · cases hreplies

end Freshness.Sync
