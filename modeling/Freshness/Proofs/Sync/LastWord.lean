import Freshness.Proofs.Sync.Clock

/-!
# The last word of a check

A check may cancel the work on its pod itself, when it is called or when it is done with waiting.  It is then
heard for the rest of its turn: it ends with its own answer if it replies without waiting, else by passing its
deadline if that is due at this very moment, and else it is given up.  `lastWord` is this answer.

The turn in which a check cancels the work is bound for its last word (`boundFor_start`, `boundFor_conclude`):
the check ends with no other answer in it, and if it is still under way after it, then the last word is that of
a check that is given up, which is what comes next.
-/

namespace Freshness

/-- Whether a check that cancels the work replies without waiting after that. -/
def Conduct.repliesOnCancelling (k : Conduct) : Bool :=
  k.answer.isSome && if k.cancelsFirst then k.delay == 0 else k.cancelsLast

namespace Sync

namespace Context

variable {ctx : Context} {c : Container} {begun n time : Nat} {o : Options} {a : Answer}

/-- The answer with which a check ends that began at one time and cancels the work itself at another: its own
if it replies without waiting after that; else that it passes its deadline, if this is due just then; and else
that it is cancelled. -/
def lastWord (ctx : Context) (k : Conduct) (begun time : Nat) : Answer :=
  match (if k.repliesOnCancelling then k.answer else none), ctx.limits.deadline with
  | some a, _ => a
  | none, some d => if begun + d.ceilMillis = time then .failed (.deadlineExceeded d) else .failed .cancelled
  | none, none => .failed .cancelled

variable {k : Conduct}

/-- A check that replies without waiting has its own answer accepted. -/
lemma lastWord_of_replies (hreplies : k.repliesOnCancelling = true) (ha : k.answer = some a) :
    ctx.lastWord k begun time = a := by
  unfold lastWord
  rw [if_pos hreplies, ha]

/-- A check that does not reply passes its deadline if this is due just then. -/
lemma lastWord_of_due (hreplies : k.repliesOnCancelling = false) {d : Duration}
    (hd : ctx.limits.deadline = some d) (hdue : begun + d.ceilMillis = time) :
    ctx.lastWord k begun time = .failed (.deadlineExceeded d) := by
  unfold lastWord
  rw [hreplies, if_neg Bool.false_ne_true, hd]
  exact if_pos hdue

/-- A check that does not reply is given up if its deadline is not due just then. -/
lemma lastWord_of_not_due (hreplies : k.repliesOnCancelling = false)
    (hnotdue : ∀ d ∈ ctx.limits.deadline, begun + d.ceilMillis ≠ time) :
    ctx.lastWord k begun time = .failed .cancelled := by
  unfold lastWord
  rw [hreplies, if_neg Bool.false_ne_true]
  cases hd : ctx.limits.deadline with
  | none => rfl
  | some d => exact if_neg (hnotdue d hd)

/-- The check of a turn is bound for an answer: it ends with no other in this turn, and if it goes on after it,
then there is nothing else for it than to be given up. -/
structure BoundFor (t : Turn) (a : Answer) : Prop where
  ended : ∀ a', .checkEnded a' ∈ t.events → a' = a
  waiting : ∀ check, t.progress = .waiting check → a = .failed .cancelled

/-- The end of a container cancels nothing. -/
lemma cancelled_not_mem_ending (e : Ending) : .cancelled ∉ (ctx.ending time c e).events := by
  cases e <;> simp [ending, endingEvents]

/-- Settling a check cancels nothing. -/
lemma cancelled_not_mem_settle (a : Answer) : .cancelled ∉ (ctx.settle time c a).events := by
  intro h
  rcases List.mem_append.1 h with hanswer | hending
  · cases List.mem_singleton.1 hanswer
  · exact cancelled_not_mem_ending (endingOf c a) hending

/-- A check that goes on waiting cancels nothing. -/
lemma cancelled_not_mem_await (check : Check) : .cancelled ∉ (ctx.await time c check).events := by
  unfold await
  split
  · exact cancelled_not_mem_settle _
  · exact List.not_mem_nil

/-- A check that cancels the work at the end of its waiting is one that does so. -/
lemma cancelsLast_of_cancelled_mem_conclude {check : Check}
    (h : .cancelled ∈ (ctx.conclude time c check).events) : check.conduct.cancelsLast = true := by
  unfold conclude at h
  rcases List.mem_append.1 h with hpre | hrest
  · rcases List.mem_append.1 hpre with hcancel | hreply
    · by_contra hnot
      rw [Bool.eq_false_iff.2 hnot] at hcancel
      cases hcancel
    · cases List.mem_singleton.1 hreply
  · split at hrest
    · exact absurd hrest (cancelled_not_mem_settle _)
    · exact absurd hrest (cancelled_not_mem_await _)

/-- A check that is settled with an answer is bound for it. -/
lemma boundFor_settle (a : Answer) : BoundFor (ctx.settle time c a) a where
  ended _ h := eq_of_checkEnded_mem_settle h
  waiting _ h := by cases h

/-- Events that end no check may come before a turn. -/
lemma BoundFor.after {t : Turn} (h : BoundFor t a) {pre : List Event} (hpre : ∀ a', .checkEnded a' ∉ pre) :
    BoundFor (t.after pre) a where
  ended a' hmem := (List.mem_append.1 hmem).elim (fun hearly => absurd hearly (hpre a')) (h.ended a')
  waiting := h.waiting

/-- A check that has cancelled the work and goes on waiting. -/
lemma boundFor_await {check : Check}
    (hdeadline : check.deadline = ctx.limits.deadline.map (begun + ·.ceilMillis))
    (hontime : ∀ d ∈ check.deadline, time ≤ d) (hreplies : k.repliesOnCancelling = false) :
    BoundFor (ctx.await time c check) (ctx.lastWord k begun time) := by
  have hgoeson : (∀ d ∈ ctx.limits.deadline, begun + d.ceilMillis ≠ time) →
      BoundFor ⟨[], .waiting check⟩ (ctx.lastWord k begun time) := fun hnotdue =>
    ⟨fun _ h => absurd h List.not_mem_nil, fun _ _ => lastWord_of_not_due hreplies hnotdue⟩
  unfold await
  cases hd : ctx.limits.deadline with
  | none =>
    rw [hd] at hdeadline hgoeson
    rw [hdeadline]
    exact hgoeson fun d hmem => absurd hmem (Option.not_mem_none d)
  | some d =>
    rw [hd] at hdeadline
    have hlater : time ≤ begun + d.ceilMillis := hontime _ (by rw [hdeadline]; rfl)
    rw [hdeadline, Option.map_some, Option.any_some]
    split
    · rename_i hdue
      have hnow : begun + d.ceilMillis = time := Nat.le_antisymm (of_decide_eq_true hdue) hlater
      rw [lastWord_of_due hreplies hd hnow, deadlinePassed_eq hd]
      exact boundFor_settle _
    · rename_i hnotdue
      refine hgoeson fun d' hmem heq => hnotdue ?_
      obtain rfl := Option.some.inj (hd.symm.trans hmem)
      exact decide_eq_true (Nat.le_of_eq heq)

/-- A check that is done with waiting and has cancelled the work. -/
lemma boundFor_conclude {check : Check} (hconduct : check.conduct = k)
    (hdeadline : check.deadline = ctx.limits.deadline.map (begun + ·.ceilMillis))
    (hontime : ∀ d ∈ check.deadline, time ≤ d)
    (hcancels : (if k.cancelsFirst then k.delay == 0 else k.cancelsLast) = true) :
    BoundFor (ctx.conclude time c check) (ctx.lastWord k begun time) := by
  subst hconduct
  refine BoundFor.after ?_ fun a' hmem => ?_
  · split
    · rename_i a hanswer
      have hreplies : check.conduct.repliesOnCancelling = true := by
        rw [Conduct.repliesOnCancelling, hanswer, hcancels]
        rfl
      rw [lastWord_of_replies hreplies hanswer]
      exact boundFor_settle a
    · rename_i hanswer
      have hreplies : check.conduct.repliesOnCancelling = false := by
        rw [Conduct.repliesOnCancelling, hanswer]
        rfl
      have hstill : ({ check with wake := none } : Check).deadline =
          ctx.limits.deadline.map (begun + ·.ceilMillis) := hdeadline
      exact boundFor_await hstill hontime hreplies
  · rcases List.mem_append.1 hmem with hcancel | hreply
    · exact absurd (isAside_of_mem_cancelling hcancel) Bool.false_ne_true
    · cases List.mem_singleton.1 hreply

/-- A check that cancels the work in the turn in which it is called. -/
lemma boundFor_callCheck (hcancel : .cancelled ∈ (ctx.callCheck begun c o n).events) :
    BoundFor (ctx.callCheck begun c o n) (ctx.lastWord (ctx.checker.call c o n) begun begun) := by
  have hontime : ∀ d ∈ ctx.limits.deadline.map (begun + ·.ceilMillis), begun ≤ d :=
    fun _ => le_of_mem_deadline
  -- what was cancelled in this turn without the call was cancelled in what the check did next
  have hnext : (ctx.checker.call c o n).cancelsFirst = false →
      .cancelled ∈ (if (ctx.checker.call c o n).delay = 0
        then ctx.conclude begun c ⟨ctx.checker.call c o n, none, ctx.limits.deadline.map (begun + ·.ceilMillis)⟩
        else ctx.await begun c ⟨ctx.checker.call c o n, some (begun + (ctx.checker.call c o n).delay),
          ctx.limits.deadline.map (begun + ·.ceilMillis)⟩).events := fun hfirst => by
    simp only [callCheck, Turn.after, hfirst] at hcancel
    rcases List.mem_append.1 hcancel with hpre | hmem
    · cases List.mem_singleton.1 hpre
    · exact hmem
  refine BoundFor.after ?_ fun a' hmem => ?_
  · by_cases hdelay : (ctx.checker.call c o n).delay = 0
    · rw [if_pos hdelay] at hnext ⊢
      refine boundFor_conclude rfl rfl hontime ?_
      cases hfirst : (ctx.checker.call c o n).cancelsFirst with
      | true => rw [if_pos rfl, hdelay, beq_self_eq_true]
      | false =>
        rw [if_neg Bool.false_ne_true]
        exact cancelsLast_of_cancelled_mem_conclude (hnext hfirst)
    · rw [if_neg hdelay] at hnext ⊢
      cases hfirst : (ctx.checker.call c o n).cancelsFirst with
      | true =>
        refine boundFor_await rfl hontime ?_
        simp [Conduct.repliesOnCancelling, hfirst, hdelay]
      | false => exact absurd (hnext hfirst) (cancelled_not_mem_await _)
  · rcases List.mem_cons.1 hmem with heq | hcancelling
    · cases heq
    · exact absurd (isAside_of_mem_cancelling hcancelling) Bool.false_ne_true

/-- A container cancels the work when it begins only by the call of its check. -/
lemma of_cancelled_mem_start {b : Bool} (h : .cancelled ∈ (ctx.start time b n c).events) :
    b = false ∧ ∃ o, ctx.resolver.options c.name = .ok o ∧
      ctx.start time b n c = (ctx.callCheck time c o n).after (ctx.opening c) ∧
      .cancelled ∈ (ctx.callCheck time c o n).events := by
  rcases ctx.start_cases time b n c with ⟨asked, e, hasked, hstart⟩ | ⟨o, hoptions, hstart⟩
  · rw [hstart] at h
    rcases List.mem_append.1 h with hquestion | hending
    · cases hasked _ hquestion
    · exact absurd hending (cancelled_not_mem_ending e)
  · rw [hstart] at h
    rcases List.mem_append.1 h with hopening | hcheck
    · simp [opening] at hopening
    · cases b with
      | true => exact absurd hcheck (cancelled_not_mem_settle _)
      | false => exact ⟨rfl, o, hoptions, hstart, hcheck⟩

/-- A check that cancels the work in the turn in which its container begins. -/
lemma boundFor_start {b : Bool} (hcancel : .cancelled ∈ (ctx.start begun b n c).events) :
    ∃ o, ctx.resolver.options c.name = .ok o ∧
      BoundFor (ctx.start begun b n c) (ctx.lastWord (ctx.checker.call c o n) begun begun) := by
  obtain ⟨-, o, hoptions, hstart, hcall⟩ := of_cancelled_mem_start hcancel
  refine ⟨o, hoptions, ?_⟩
  rw [hstart]
  exact (boundFor_callCheck hcall).after (by simp [opening])

end Context

end Sync

end Freshness
