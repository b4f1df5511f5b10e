import Freshness.Proofs.Sync.Story

/-!
# Where answers come from

A check that is under way goes on as the checker conducts it for the container, its options and the
number of earlier calls (`CheckOf`).  So the answer with which a check ends is the one of that conduct,
unless the check is given up because the work on the pod is cancelled, or passes its deadline
(`AnswerOf`, `Story.answerOf`).
-/

namespace Freshness.Sync

/-- The answer with which an event ends a check. -/
def Event.answer? : Event → Option Answer
  | checkEnded a => some a
  | _ => none

/-- The answers with which the check of the container at a position ended. -/
def answersAt (trace : List Moment) (i : Nat) : List Answer :=
  (eventsAt trace i).filterMap (·.answer?)

/-- An event that ends a check does so with its answer. -/
lemma Event.answer?_eq_some_iff {e : Event} {a : Answer} : e.answer? = some a ↔ e = .checkEnded a := by
  cases e <;> simp [answer?]

namespace Context

variable {ctx : Context} {c : Container} {begun n : Nat} {o : Options}

/-- A check that is under way: it goes on as the checker conducts it for a container that began at a time,
with its options, after `n` earlier calls.  One that will not wake again has no answer. -/
structure CheckOf (ctx : Context) (c : Container) (begun n : Nat) (o : Options) (check : Check) :
    Prop where
  options : ctx.resolver.options c.name = .ok o
  conduct : check.conduct = ctx.checker.call c o n
  deadline : check.deadline = ctx.limits.deadline.map (begun + ·.ceilMillis)
  wake : ∀ w ∈ check.wake, w = begun + (ctx.checker.call c o n).delay
  silent : check.wake = none → (ctx.checker.call c o n).answer = none

/-- The ways in which the check of a container can come to an answer. -/
inductive AnswerOf (ctx : Context) (cancelled : Bool) (c : Container) (n : Nat) (b : Bool) :
    Answer → Prop where
  | replied {o : Options} {a : Answer} (hb : b = false)
      (hoptions : ctx.resolver.options c.name = .ok o)
      (hanswer : (ctx.checker.call c o n).answer = some a) : AnswerOf ctx cancelled c n b a
  | lapsed {d : Duration} (hdeadline : ctx.limits.deadline = some d) :
      AnswerOf ctx cancelled c n b (.failed (.deadlineExceeded d))
  | givenUp (hcancelled : b = true ∨ cancelled = true) :
      AnswerOf ctx cancelled c n b (.failed .cancelled)

/-! ## Checks that are under way -/

/-- A check that goes on waiting is the same check. -/
lemma eq_of_await_eq_waiting {time : Nat} {check check' : Check}
    (h : (ctx.await time c check).progress = .waiting check') : check' = check := by
  unfold await at h
  split at h
  · cases h
  · exact (Progress.waiting.inj h).symm

/-- A check that is done with waiting and is still under way has no answer, and will not wake again. -/
lemma eq_of_conclude_eq_waiting {time : Nat} {check check' : Check}
    (h : (ctx.conclude time c check).progress = .waiting check') :
    check.conduct.answer = none ∧ check' = { check with wake := none } := by
  simp only [conclude, Turn.after] at h
  split at h
  · cases h
  · rename_i hanswer
    exact ⟨hanswer, eq_of_await_eq_waiting h⟩

/-- A check that has been called and is under way is conducted by the checker. -/
lemma checkOf_of_callCheck_eq_waiting {check : Check} (hoptions : ctx.resolver.options c.name = .ok o)
    (h : (ctx.callCheck begun c o n).progress = .waiting check) : ctx.CheckOf c begun n o check := by
  simp only [callCheck, Turn.after] at h
  split at h
  · obtain ⟨hanswer, rfl⟩ := eq_of_conclude_eq_waiting h
    exact ⟨hoptions, rfl, rfl, fun w hw => (Option.not_mem_none w hw).elim, fun _ => hanswer⟩
  · obtain rfl := eq_of_await_eq_waiting h
    exact ⟨hoptions, rfl, rfl, fun w hw => (Option.some.inj hw).symm,
      fun hwake => absurd hwake (Option.some_ne_none _)⟩

/-- A container whose first turn leaves a check under way began before the work was cancelled, and its
check was called. -/
lemma checkOf_of_start_eq_waiting {b : Bool} {check : Check}
    (h : (ctx.start begun b n c).progress = .waiting check) :
    b = false ∧ ∃ o, ctx.start begun b n c = (ctx.callCheck begun c o n).after (ctx.opening c) ∧
      ctx.CheckOf c begun n o check := by
  rcases ctx.start_cases begun b n c with ⟨asked, e, -, hstart⟩ | ⟨o, hoptions, hstart⟩
  · rw [hstart] at h
    cases h
  · rw [hstart] at h
    cases b with
    | true => cases h
    | false => exact ⟨rfl, o, hstart, checkOf_of_callCheck_eq_waiting hoptions h⟩

/-- The check of a story that is under way was called when its container began, and is conducted by the
checker. -/
theorem Story.checkOf {x b : Bool} {i : Nat} {ms : List Moment} {check : Check}
    (h : ctx.Story x i c begun n b ms (.waiting check)) :
    b = false ∧ ∃ o, ctx.start begun b n c = (ctx.callCheck begun c o n).after (ctx.opening c) ∧
      ctx.CheckOf c begun n o check := by
  generalize hp : Progress.waiting check = p at h
  induction h generalizing check with
  | begin => exact checkOf_of_start_eq_waiting hp.symm
  | resume _ ht ih =>
    obtain ⟨hb, o, hstart, hcheck⟩ := ih rfl
    refine ⟨hb, o, hstart, ?_⟩
    cases ht with
    | giveUp _ => cases hp
    | wake _ _ =>
      obtain ⟨hanswer, rfl⟩ := eq_of_conclude_eq_waiting hp.symm
      rw [hcheck.conduct] at hanswer
      exact ⟨hcheck.options, hcheck.conduct, hcheck.deadline,
        fun w hw => (Option.not_mem_none w hw).elim, fun _ => hanswer⟩
    | lapse _ _ => cases hp

/-! ## Answers -/

/-- The events of an ending end no check. -/
lemma checkEnded_not_mem_endingEvents (c : Container) (e : Ending) (a : Answer) :
    Event.checkEnded a ∉ ctx.endingEvents c e := by
  cases e <;> simp [endingEvents]

/-- A check that is settled with an answer ends with that one. -/
lemma eq_of_checkEnded_mem_settle {time : Nat} {a a' : Answer}
    (h : .checkEnded a ∈ (ctx.settle time c a').events) : a = a' := by
  rcases List.mem_cons.1 h with heq | hmem
  · exact Event.checkEnded.inj heq
  · exact absurd hmem (checkEnded_not_mem_endingEvents c _ a)

/-- A check that passes its deadline tells the deadline as it was set. -/
lemma deadlinePassed_eq {d : Duration} (hd : ctx.limits.deadline = some d) :
    ctx.deadlinePassed = .failed (.deadlineExceeded d) := by
  unfold deadlinePassed
  rw [hd]
  rfl

/-- A check that goes on waiting ends only by passing its deadline, if this is due. -/
lemma of_checkEnded_mem_await {time : Nat} {check : Check} {a : Answer}
    (hdeadline : check.deadline = ctx.limits.deadline.map (begun + ·.ceilMillis))
    (h : .checkEnded a ∈ (ctx.await time c check).events) :
    ∃ d, ctx.limits.deadline = some d ∧ begun + d.ceilMillis ≤ time ∧
      a = .failed (.deadlineExceeded d) := by
  unfold await at h
  split at h
  · rename_i hdue
    obtain rfl := eq_of_checkEnded_mem_settle h
    rw [hdeadline] at hdue
    cases hd : ctx.limits.deadline with
    | none => simp [hd] at hdue
    | some d =>
      rw [hd, Option.map_some, Option.any_some, decide_eq_true_iff] at hdue
      exact ⟨d, rfl, hdue, deadlinePassed_eq hd⟩
  · exact absurd h List.not_mem_nil

/-- A check that is done with waiting ends with its own answer, or without one as a check that goes on
waiting. -/
lemma of_checkEnded_mem_conclude {time : Nat} {check : Check} {a : Answer}
    (h : .checkEnded a ∈ (ctx.conclude time c check).events) :
    check.conduct.answer = some a ∨
      check.conduct.answer = none ∧
        .checkEnded a ∈ (ctx.await time c { check with wake := none }).events := by
  unfold conclude at h
  rcases List.mem_append.1 h with hpre | hmem
  · rcases List.mem_append.1 hpre with hcancel | hreply
    · exact absurd (isAside_of_mem_cancelling hcancel) Bool.false_ne_true
    · cases List.mem_singleton.1 hreply
  · split at hmem
    · rename_i a' hanswer
      obtain rfl := eq_of_checkEnded_mem_settle hmem
      exact .inl hanswer
    · rename_i hanswer
      exact .inr ⟨hanswer, hmem⟩

/-- A check that ends in the turn in which it is called is done with waiting, or goes on waiting. -/
lemma of_checkEnded_mem_callCheck {a : Answer} (h : .checkEnded a ∈ (ctx.callCheck begun c o n).events) :
    ∃ check : Check, check.conduct = ctx.checker.call c o n ∧
      check.deadline = ctx.limits.deadline.map (begun + ·.ceilMillis) ∧
      ((ctx.checker.call c o n).delay = 0 ∧ .checkEnded a ∈ (ctx.conclude begun c check).events ∨
        0 < (ctx.checker.call c o n).delay ∧ .checkEnded a ∈ (ctx.await begun c check).events) := by
  simp only [callCheck, Turn.after] at h
  rcases List.mem_append.1 h with hpre | hmem
  · rcases List.mem_cons.1 hpre with heq | hcancel
    · cases heq
    · exact absurd (isAside_of_mem_cancelling hcancel) Bool.false_ne_true
  · split at hmem
    · rename_i hdelay
      exact ⟨_, rfl, rfl, .inl ⟨hdelay, hmem⟩⟩
    · rename_i hdelay
      exact ⟨_, rfl, rfl, .inr ⟨Nat.pos_of_ne_zero hdelay, hmem⟩⟩

/-- A check that goes on waiting ends only by passing its deadline. -/
lemma answerOf_of_await {x b : Bool} {time : Nat} {check : Check} {a : Answer}
    (hdeadline : check.deadline = ctx.limits.deadline.map (begun + ·.ceilMillis))
    (h : .checkEnded a ∈ (ctx.await time c check).events) : ctx.AnswerOf x c n b a := by
  obtain ⟨d, hd, -, rfl⟩ := of_checkEnded_mem_await hdeadline h
  exact .lapsed hd

/-- A check that is done with waiting ends as it is conducted, or by passing its deadline. -/
lemma answerOf_of_conclude {x : Bool} {time : Nat} {check : Check} {a : Answer}
    (hoptions : ctx.resolver.options c.name = .ok o)
    (hconduct : check.conduct = ctx.checker.call c o n)
    (hdeadline : check.deadline = ctx.limits.deadline.map (begun + ·.ceilMillis))
    (h : .checkEnded a ∈ (ctx.conclude time c check).events) : ctx.AnswerOf x c n false a := by
  rcases of_checkEnded_mem_conclude h with hanswer | ⟨-, hmem⟩
  · exact .replied rfl hoptions (hconduct ▸ hanswer)
  · have hstill : ({ check with wake := none } : Check).deadline = _ := hdeadline
    exact answerOf_of_await hstill hmem

/-- A check that ends in the turn in which it is called ends as it is conducted, or by passing its
deadline. -/
lemma answerOf_of_callCheck {x : Bool} {a : Answer} (hoptions : ctx.resolver.options c.name = .ok o)
    (h : .checkEnded a ∈ (ctx.callCheck begun c o n).events) : ctx.AnswerOf x c n false a := by
  obtain ⟨check, hconduct, hdeadline, ⟨-, hmem⟩ | ⟨-, hmem⟩⟩ := of_checkEnded_mem_callCheck h
  · exact answerOf_of_conclude hoptions hconduct hdeadline hmem
  · exact answerOf_of_await hdeadline hmem

/-- A check that ends in the turn in which its container begins ends in the first turn of the check. -/
lemma of_checkEnded_mem_start {b : Bool} {a : Answer}
    (h : .checkEnded a ∈ (ctx.start begun b n c).events) :
    ∃ o, ctx.resolver.options c.name = .ok o ∧ .checkEnded a ∈ (ctx.check begun b n c o).events := by
  rcases ctx.start_cases begun b n c with ⟨asked, e, hasked, hstart⟩ | ⟨o, hoptions, hstart⟩
  · rw [hstart] at h
    rcases List.mem_append.1 h with hquestion | hending
    · cases hasked _ hquestion
    · exact absurd hending (checkEnded_not_mem_endingEvents c e a)
  · rw [hstart] at h
    rcases List.mem_append.1 h with hopening | hmem
    · exact absurd hopening (by simp [opening])
    · exact ⟨o, hoptions, hmem⟩

/-- A check whose container begins after the work is cancelled is given up. -/
lemma eq_cancelled_of_checkEnded_mem_start {a : Answer}
    (h : .checkEnded a ∈ (ctx.start begun true n c).events) : a = .failed .cancelled := by
  obtain ⟨o, -, hmem⟩ := of_checkEnded_mem_start h
  exact eq_of_checkEnded_mem_settle hmem

/-- A check that ends in the turn in which its container begins. -/
lemma answerOf_of_start {x b : Bool} {a : Answer}
    (h : .checkEnded a ∈ (ctx.start begun b n c).events) : ctx.AnswerOf x c n b a := by
  cases b with
  | true =>
    obtain rfl := eq_cancelled_of_checkEnded_mem_start h
    exact .givenUp (.inl rfl)
  | false =>
    obtain ⟨o, hoptions, hmem⟩ := of_checkEnded_mem_start h
    exact answerOf_of_callCheck hoptions hmem

/-- Every answer in a story is the one of the conduct of its check, unless the check was given up or
passed its deadline. -/
theorem Story.answerOf {x b : Bool} {i : Nat} {ms : List Moment} {p : Progress} {a : Answer}
    (h : ctx.Story x i c begun n b ms p) (ha : .checkEnded a ∈ ms.map (·.event)) :
    ctx.AnswerOf x c n b a := by
  induction h with
  | begin =>
    rw [map_event_moments] at ha
    exact answerOf_of_start ha
  | resume hstory ht ih =>
    rw [List.map_append, map_event_moments] at ha
    rcases List.mem_append.1 ha with hbefore | hmem
    · exact ih hbefore
    · obtain ⟨hb, o, -, hcheck⟩ := hstory.checkOf
      subst hb
      cases ht with
      | giveUp hcancelled =>
        obtain rfl := eq_of_checkEnded_mem_settle hmem
        exact .givenUp (.inr hcancelled)
      | wake _ _ =>
        exact answerOf_of_conclude hcheck.options hcheck.conduct hcheck.deadline hmem
      | lapse hdeadline _ =>
        obtain rfl := eq_of_checkEnded_mem_settle hmem
        rw [hcheck.deadline] at hdeadline
        obtain ⟨d, hd, -⟩ := Option.map_eq_some_iff.1 hdeadline
        rw [deadlinePassed_eq hd]
        exact .lapsed hd

end Context

end Freshness.Sync
