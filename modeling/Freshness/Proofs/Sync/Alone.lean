import Freshness.Proofs.Sync.Calls

/-!
# A container by itself

While the work on a pod is not cancelled its containers do not meet.  How one of them ends is then a matter of
its own alone: whether it is to be checked, its options, how its check goes on, and the deadline.
`endingAlone?` computes the ending from these, and `Concluded.endingAlone?_eq` shows that a container comes to
no other, whenever its check was called and whatever happens beside it.  `ended_final_of_answers` shows that
it does come to it if its check replies or there is a deadline.
-/

namespace Freshness

/-- The answer with which a check ends that nobody cancels: its own, unless a deadline passes before. -/
def Conduct.answerWithin? (k : Conduct) : (deadline : Option Duration) → Option Answer
  | none => k.answer
  | some d =>
    match k.answer with
    | some a => if k.delay ≤ d.ceilMillis then some a else some (.failed (.deadlineExceeded d))
    | none => some (.failed (.deadlineExceeded d))

namespace Conduct

variable {k : Conduct}

/-- A check that replies in time ends with its own answer. -/
lemma answerWithin?_of_answer {a : Answer} {deadline : Option Duration} (hanswer : k.answer = some a)
    (hintime : ∀ d ∈ deadline, k.delay ≤ d.ceilMillis) : k.answerWithin? deadline = some a := by
  cases deadline with
  | none => exact hanswer
  | some d =>
    unfold answerWithin?
    rw [hanswer]
    exact if_pos (hintime d rfl)

/-- A check that does not reply in time passes its deadline. -/
lemma answerWithin?_of_late {d : Duration} (h : k.answer = none ∨ d.ceilMillis < k.delay) :
    k.answerWithin? (some d) = some (.failed (.deadlineExceeded d)) := by
  unfold answerWithin?
  cases hanswer : k.answer with
  | none => rfl
  | some a =>
    rcases h with hnone | hlate
    · rw [hanswer] at hnone
      cases hnone
    · exact if_neg (Nat.not_le.2 hlate)

end Conduct

namespace Sync

/-- The ending to which a container comes by itself, unless it never comes to one: from whether it is to be
checked, its options, how its check goes on with them, and the deadline. -/
def endingAlone? (c : Container) (enabled : Bool) (options : Except (List Issue) Options)
    (conduct : Options → Conduct) (deadline : Option Duration) : Option Ending :=
  match enabled, options with
  | false, _ => some .disabled
  | true, .error issues => some (.failed (.configuration c.name issues))
  | true, .ok o => ((conduct o).answerWithin? deadline).map (Context.endingOf c)

namespace Context

variable {ctx : Context} {c : Container} {begun n time : Nat} {o : Options} {a : Answer}

/-! ## Answers of checks that are not cancelled -/

/-- A check that goes on waiting ends only by passing its deadline, if it does not reply in time. -/
lemma answerWithin?_of_await {check : Check}
    (hdeadline : check.deadline = ctx.limits.deadline.map (begun + ·.ceilMillis))
    (hlate : ∀ d ∈ ctx.limits.deadline, begun + d.ceilMillis ≤ time →
      (ctx.checker.call c o n).answer = none ∨ d.ceilMillis < (ctx.checker.call c o n).delay)
    (h : .checkEnded a ∈ (ctx.await time c check).events) :
    (ctx.checker.call c o n).answerWithin? ctx.limits.deadline = some a := by
  obtain ⟨d, hd, hdue, rfl⟩ := of_checkEnded_mem_await hdeadline h
  rw [hd]
  exact Conduct.answerWithin?_of_late (hlate d hd hdue)

/-- A check that is done with waiting in time ends with its own answer, or by passing its deadline. -/
lemma answerWithin?_of_conclude {check : Check} (hconduct : check.conduct = ctx.checker.call c o n)
    (hdeadline : check.deadline = ctx.limits.deadline.map (begun + ·.ceilMillis))
    (hintime : ∀ d ∈ ctx.limits.deadline, (ctx.checker.call c o n).delay ≤ d.ceilMillis)
    (h : .checkEnded a ∈ (ctx.conclude time c check).events) :
    (ctx.checker.call c o n).answerWithin? ctx.limits.deadline = some a := by
  rcases of_checkEnded_mem_conclude h with hanswer | ⟨hanswer, hmem⟩
  · exact Conduct.answerWithin?_of_answer (hconduct ▸ hanswer) hintime
  · rw [hconduct] at hanswer
    have hstill : ({ check with wake := none } : Check).deadline = _ := hdeadline
    exact answerWithin?_of_await hstill (fun _ _ _ => .inl hanswer) hmem

/-- A check that ends in the turn in which it is called. -/
lemma answerWithin?_of_callCheck (h : .checkEnded a ∈ (ctx.callCheck begun c o n).events) :
    (ctx.checker.call c o n).answerWithin? ctx.limits.deadline = some a := by
  obtain ⟨check, hconduct, hdeadline, ⟨hdelay, hmem⟩ | ⟨hdelay, hmem⟩⟩ := of_checkEnded_mem_callCheck h
  · refine answerWithin?_of_conclude hconduct hdeadline (fun d _ => ?_) hmem
    rw [hdelay]
    exact Nat.zero_le _
  · refine answerWithin?_of_await hdeadline (fun d _ hdue => .inr ?_) hmem
    omega

/-- In a story without cancellation a check ends with the answer that it gives by itself. -/
theorem Story.answerWithin?_eq {b : Bool} {i : Nat} {ms : List Moment} {p : Progress}
    (h : ctx.Story false i c begun n b ms p) (hb : b = false) (hoptions : ctx.resolver.options c.name = .ok o)
    (ha : .checkEnded a ∈ ms.map (·.event)) :
    (ctx.checker.call c o n).answerWithin? ctx.limits.deadline = some a := by
  subst hb
  -- by induction on the turns; a check that was given up is not in such a story
  induction h with
  | begin =>
    rw [map_event_moments] at ha
    obtain ⟨o', hoptions', hmem⟩ := of_checkEnded_mem_start ha
    obtain rfl := Except.ok.inj (hoptions.symm.trans hoptions')
    exact answerWithin?_of_callCheck hmem
  | @resume ms check time t spans hstory ht ih =>
    rw [List.map_append, map_event_moments] at ha
    rcases List.mem_append.1 ha with hbefore | hmem
    · exact ih hbefore
    · obtain ⟨-, o', -, hcheck⟩ := hstory.checkOf
      obtain rfl := Except.ok.inj (hoptions.symm.trans hcheck.options)
      cases ht with
      | giveUp hcancelled => cases hcancelled
      | wake hwake hintime =>
        have htime : time = begun + (ctx.checker.call c o n).delay := hcheck.wake time hwake
        refine answerWithin?_of_conclude hcheck.conduct hcheck.deadline (fun d hd => ?_) hmem
        have hle : time ≤ begun + d.ceilMillis := hintime _ (by rw [hcheck.deadline, hd]; rfl)
        omega
      | lapse hdue hlate =>
        obtain rfl := eq_of_checkEnded_mem_settle hmem
        rw [hcheck.deadline] at hdue
        obtain ⟨d, hd, htime⟩ := Option.map_eq_some_iff.1 hdue
        rw [deadlinePassed_eq hd, hd]
        refine Conduct.answerWithin?_of_late ?_
        cases hwake : check.wake with
        | none => exact .inl (hcheck.silent hwake)
        | some w =>
          have hw : w = begun + (ctx.checker.call c o n).delay := hcheck.wake w hwake
          have hlt : time < w := hlate w hwake
          exact .inr (by omega)

/-! ## Endings of containers that are not cancelled -/

variable {earlier : String → Nat} {trace : List Moment} {i : Nat} {e : Ending}

/-- What is not cancelled in the whole is not cancelled before a container. -/
lemma cancelledIn_before (h : cancelledIn trace = false) (i : Nat) :
    cancelledIn (before trace i) = false := by
  refine List.any_eq_false.2 fun m hm hcancel => ?_
  exact List.any_eq_false.1 h m ((List.takeWhile_prefix _).subset hm) hcancel

/-- If the work is not cancelled, then a container with a check has one answer, the one that its check gives by
itself, and this answer makes its ending. -/
lemma Concluded.answerWithin?_eq {o : Options} (h : ctx.Concluded earlier trace i c e)
    (hquiet : cancelledIn trace = false)
    (henabled : ctx.resolver.isEnabled ctx.limits.checkByDefault c.name = true)
    (hoptions : ctx.resolver.options c.name = .ok o) :
    ∃ a, answersAt trace i = [a] ∧ e = endingOf c a ∧
      (ctx.checker.call c o (earlier c.name + callsIn (before trace i) c.name)).answerWithin?
        ctx.limits.deadline = some a := by
  obtain ⟨begun, time, hstory⟩ := h
  have haccount : ctx.Account c (eventsAt trace i) (.ended time e) := hstory.account
  obtain ⟨a, hanswers, he⟩ := haccount.exists_answer henabled hoptions
  have hmem : a ∈ (eventsAt trace i).filterMap (·.answer?) := by
    rw [hanswers]
    exact List.mem_singleton_self a
  obtain ⟨ev, hev, hanswer⟩ := List.mem_filterMap.1 hmem
  obtain rfl := Event.answer?_eq_some_iff.1 hanswer
  rw [hquiet] at hstory
  exact ⟨a, hanswers, he, hstory.answerWithin?_eq (cancelledIn_before hquiet i) hoptions hev⟩

/-- A container comes to the ending to which it comes by itself, if the work is not cancelled. -/
theorem Concluded.endingAlone?_eq (h : ctx.Concluded earlier trace i c e)
    (hquiet : cancelledIn trace = false) :
    endingAlone? c (ctx.resolver.isEnabled ctx.limits.checkByDefault c.name) (ctx.resolver.options c.name)
      (ctx.checker.call c · (earlier c.name + callsIn (before trace i) c.name)) ctx.limits.deadline =
      some e := by
  obtain ⟨begun, time, hstory⟩ := h
  have haccount : ctx.Account c (eventsAt trace i) (.ended time e) := hstory.account
  unfold endingAlone?
  cases henabled : ctx.resolver.isEnabled ctx.limits.checkByDefault c.name with
  | false => rw [haccount.eq_disabled henabled]
  | true =>
    cases hoptions : ctx.resolver.options c.name with
    | error issues => rw [haccount.eq_configuration henabled hoptions]
    | ok o =>
      have hown : ctx.Concluded earlier trace i c e := ⟨begun, time, hstory⟩
      obtain ⟨a, -, rfl, hanswer⟩ := hown.answerWithin?_eq hquiet henabled hoptions
      dsimp only
      rw [hanswer]
      rfl

/-! ## The end of the course -/

variable {setup : Setup} {t : Task}

/-- The work comes to its end if there is a deadline, or if the check of each container replies. -/
theorem ended_final_of_answers (hn : 0 < setup.limits.concurrency)
    (hnames : (t.pod.containers.map (·.name)).Nodup)
    (hends : setup.limits.deadline ≠ none ∨ ∀ c ∈ t.pod.containers,
      (setup.resolver t.pod.annotations).isEnabled setup.limits.checkByDefault c.name = true →
        ∀ o, (setup.resolver t.pod.annotations).options c.name = .ok o →
          (setup.checker.call c o (earlier c.name)).answer ≠ none) :
    (setup.final earlier t).queue = [] ∧
      ∀ slot ∈ (setup.final earlier t).slots, slot.isWaiting = false := by
  have hinv := invariant_final setup earlier t
  refine ((stopped_final setup earlier t).ended_or_stuck hn).resolve_right ?_
  rintro ⟨i, slot, check, hslot, hcheck, hwake, hdeadline⟩
  obtain ⟨pre, htold⟩ := hinv.told i slot hslot
  have hcontainer := hinv.getElem?_of_slot hslot
  have hstory := htold.story
  rw [hcheck] at hstory
  obtain ⟨-, o, -, hconduct⟩ := hstory.checkOf
  have henabled : (setup.resolver t.pod.annotations).isEnabled setup.limits.checkByDefault
      slot.container.name = true := hstory.account.isEnabled_of_waiting
  rcases hends with hset | hanswers
  · rw [hconduct.deadline] at hdeadline
    exact hset (Option.map_eq_none_iff.1 hdeadline)
  · -- the check never replies, though it is the only one of its name
    obtain ⟨notes, htrace, -⟩ := report_trace_eq t.pod.id (setup.final earlier t)
    have hfirst : callsIn pre slot.container.name = 0 := by
      have hbefore : before (setup.report earlier t).trace i = pre :=
        htold.before_eq (htrace ▸ List.prefix_append _ notes)
      rw [← hbefore]
      exact callsIn_before_report hnames hcontainer
    have hsilent := hconduct.silent hwake
    rw [hfirst, Nat.add_zero] at hsilent
    exact hanswers slot.container (List.mem_of_getElem? hcontainer) henabled o hconduct.options hsilent

end Context

end Sync

end Freshness
