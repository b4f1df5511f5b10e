import Freshness.Sync.Turn
import Freshness.Proofs.Sync.Step

/-!
# Accounts of containers

Turns differ in what they do first, but all come to the same few ends.  A turn of a check leaves the check
under way or ends it with an answer (`CheckTurn`); the call of the checker, its reply and the cancelling
of the work stand aside.  `Account` is what the turns of a container come to when they are taken
together: the container is disabled, or its annotations are wrong, or it has a check that is under way,
or one that has ended with one answer.  What belongs to one container only follows from its account.
-/

namespace Freshness.Sync

/-- An event on the way of a check: its call, its reply, or that it cancels the work on the pod. -/
def Event.isAside : Event → Bool
  | checkCalled _ _ => true
  | cancelled => true
  | replied _ => true
  | _ => false

/-- The questions about a container that come before anything else: whether it is checked, and how. -/
def Event.isQuestion : Event → Bool
  | enablementAsked _ _ _ => true
  | optionsAsked _ => true
  | _ => false

/-- What is read from events is nothing if all of them stand aside and nothing is read from such events. -/
lemma filterMap_of_isAside {α : Type} {f : Event → Option α}
    (hf : ∀ e : Event, e.isAside = true → f e = none) {pre : List Event}
    (hpre : ∀ e ∈ pre, e.isAside = true) : pre.filterMap f = [] :=
  List.filterMap_eq_nil_iff.2 fun e he => hf e (hpre e he)

namespace Context

variable {ctx : Context} {c : Container}

/-! ## Turns of a check -/

/-- A turn of a check leaves it under way, or ends it with an answer; what comes before stands aside. -/
inductive CheckTurn (ctx : Context) (c : Container) (time : Nat) : Turn → Prop where
  | waits {pre : List Event} {check : Check} (hpre : ∀ e ∈ pre, e.isAside = true) :
      CheckTurn ctx c time ⟨pre, .waiting check⟩
  | ends {pre : List Event} {a : Answer} (hpre : ∀ e ∈ pre, e.isAside = true) :
      CheckTurn ctx c time ((ctx.settle time c a).after pre)

/-- What stands aside may come before a turn of a check. -/
lemma CheckTurn.after {time : Nat} {t : Turn} (h : ctx.CheckTurn c time t) {pre : List Event}
    (hpre : ∀ e ∈ pre, e.isAside = true) : ctx.CheckTurn c time (t.after pre) := by
  cases h with
  | waits hpre' => exact .waits (List.forall_mem_append.2 ⟨hpre, hpre'⟩)
  | @ends pre' a hpre' =>
    have hends : ctx.CheckTurn c time ((ctx.settle time c a).after (pre ++ pre')) :=
      .ends (List.forall_mem_append.2 ⟨hpre, hpre'⟩)
    simpa only [Turn.after, List.append_assoc] using hends

/-- Ending a check with an answer is a turn of it. -/
lemma checkTurn_settle (time : Nat) (c : Container) (a : Answer) :
    ctx.CheckTurn c time (ctx.settle time c a) := by
  have hends : ctx.CheckTurn c time ((ctx.settle time c a).after []) :=
    .ends fun _ he => absurd he List.not_mem_nil
  exact hends

/-- Going on waiting is a turn of a check, also when its deadline is due. -/
lemma checkTurn_await (time : Nat) (c : Container) (check : Check) :
    ctx.CheckTurn c time (ctx.await time c check) := by
  unfold await
  split
  · exact checkTurn_settle time c _
  · exact .waits fun _ he => absurd he List.not_mem_nil

/-- The cancelling of the work by a check stands aside. -/
lemma isAside_of_mem_cancelling {cancels : Bool} {e : Event} (h : e ∈ cancelling cancels) :
    e.isAside = true := by
  cases cancels with
  | false => exact absurd h List.not_mem_nil
  | true =>
    rw [List.mem_singleton.1 h]
    rfl

/-- The end of waiting is a turn of a check. -/
lemma checkTurn_conclude (time : Nat) (c : Container) (check : Check) :
    ctx.CheckTurn c time (ctx.conclude time c check) := by
  unfold conclude
  refine CheckTurn.after ?_ fun e he => ?_
  · split
    · exact checkTurn_settle time c _
    · exact checkTurn_await time c _
  · rcases List.mem_append.1 he with h | h
    · exact isAside_of_mem_cancelling h
    · rw [List.mem_singleton.1 h]
      rfl

/-- The call of a check is a turn of it. -/
lemma checkTurn_callCheck (time : Nat) (c : Container) (o : Options) (n : Nat) :
    ctx.CheckTurn c time (ctx.callCheck time c o n) := by
  unfold callCheck
  refine CheckTurn.after ?_ fun e he => ?_
  · split
    · exact checkTurn_conclude time c _
    · exact checkTurn_await time c _
  · rcases List.mem_cons.1 he with rfl | h
    · rfl
    · exact isAside_of_mem_cancelling h

/-- The first turn of a check, called or not, is one. -/
lemma checkTurn_check (time : Nat) (cancelled : Bool) (n : Nat) (c : Container) (o : Options) :
    ctx.CheckTurn c time (ctx.check time cancelled n c o) := by
  unfold check
  split
  · exact checkTurn_settle time c _
  · exact checkTurn_callCheck time c o n

/-- A check that is under way gets turns of a check. -/
lemma Resumes.checkTurn {cancelled : Bool} {check : Check} {time : Nat} {t : Turn}
    (h : ctx.Resumes cancelled c check time t) : ctx.CheckTurn c time t := by
  cases h with
  | giveUp _ => exact checkTurn_settle time c _
  | wake _ _ => exact checkTurn_conclude time c check
  | lapse _ _ => exact checkTurn_settle time c _

/-! ## Accounts -/

/-- What happens first to a container that is checked. -/
def opening (ctx : Context) (c : Container) : List Event :=
  [.enablementAsked c.name ctx.limits.checkByDefault true, .optionsAsked c.name,
    .logged (.processing c.image)]

/-- What a container has come to: it is disabled, its annotations are wrong, its check is under way, or
its check has ended with one answer. -/
inductive Account (ctx : Context) (c : Container) : List Event → Progress → Prop where
  | disabled {time : Nat} (henabled : ctx.resolver.isEnabled ctx.limits.checkByDefault c.name = false) :
      Account ctx c
        (.enablementAsked c.name ctx.limits.checkByDefault false :: ctx.endingEvents c .disabled)
        (.ended time .disabled)
  | misconfigured {time : Nat} {issues : List Issue}
      (henabled : ctx.resolver.isEnabled ctx.limits.checkByDefault c.name = true)
      (hoptions : ctx.resolver.options c.name = .error issues) :
      Account ctx c
        (.enablementAsked c.name ctx.limits.checkByDefault true :: .optionsAsked c.name ::
          ctx.endingEvents c (.failed (.configuration c.name issues)))
        (.ended time (.failed (.configuration c.name issues)))
  | checking {o : Options} {pre : List Event} {check : Check}
      (henabled : ctx.resolver.isEnabled ctx.limits.checkByDefault c.name = true)
      (hoptions : ctx.resolver.options c.name = .ok o) (hpre : ∀ e ∈ pre, e.isAside = true) :
      Account ctx c (ctx.opening c ++ pre) (.waiting check)
  | checked {time : Nat} {o : Options} {pre : List Event} {a : Answer}
      (henabled : ctx.resolver.isEnabled ctx.limits.checkByDefault c.name = true)
      (hoptions : ctx.resolver.options c.name = .ok o) (hpre : ∀ e ∈ pre, e.isAside = true) :
      Account ctx c (ctx.opening c ++ pre ++ .checkEnded a :: ctx.endingEvents c (endingOf c a))
        (.ended time (endingOf c a))

/-- A container with a check is accounted for by what opens its work, followed by turns of the check. -/
lemma account_of_checkTurn {o : Options} {pre : List Event} {time : Nat} {t : Turn}
    (henabled : ctx.resolver.isEnabled ctx.limits.checkByDefault c.name = true)
    (hoptions : ctx.resolver.options c.name = .ok o) (hpre : ∀ e ∈ pre, e.isAside = true)
    (ht : ctx.CheckTurn c time t) : ctx.Account c (ctx.opening c ++ pre ++ t.events) t.progress := by
  cases ht with
  | @waits pre' check hpre' =>
    rw [List.append_assoc]
    exact .checking henabled hoptions (List.forall_mem_append.2 ⟨hpre, hpre'⟩)
  | @ends pre' a hpre' =>
    have hchecked : ctx.Account c
        (ctx.opening c ++ (pre ++ pre') ++ .checkEnded a :: ctx.endingEvents c (endingOf c a))
        (.ended time (endingOf c a)) :=
      .checked henabled hoptions (List.forall_mem_append.2 ⟨hpre, hpre'⟩)
    simpa only [Turn.after, settle, ending, List.append_assoc, List.singleton_append] using hchecked

/-- The first turn of a container that is not to be checked. -/
lemma start_of_isEnabled_eq_false (time : Nat) (cancelled : Bool) (n : Nat)
    (h : ctx.resolver.isEnabled ctx.limits.checkByDefault c.name = false) :
    ctx.start time cancelled n c =
      (ctx.ending time c .disabled).after
        [.enablementAsked c.name ctx.limits.checkByDefault false] := by
  simp only [start, h, Bool.false_eq_true, if_false]

/-- The first turn of a container with wrong annotations. -/
lemma start_of_options_eq_error (time : Nat) (cancelled : Bool) (n : Nat) {issues : List Issue}
    (h : ctx.resolver.isEnabled ctx.limits.checkByDefault c.name = true)
    (hoptions : ctx.resolver.options c.name = .error issues) :
    ctx.start time cancelled n c =
      (ctx.ending time c (.failed (.configuration c.name issues))).after
        [.enablementAsked c.name ctx.limits.checkByDefault true, .optionsAsked c.name] := by
  simp only [start, h, hoptions, if_true]
  rfl

/-- The first turn of a container with a check. -/
lemma start_of_options_eq_ok (time : Nat) (cancelled : Bool) (n : Nat) {o : Options}
    (h : ctx.resolver.isEnabled ctx.limits.checkByDefault c.name = true)
    (hoptions : ctx.resolver.options c.name = .ok o) :
    ctx.start time cancelled n c = (ctx.check time cancelled n c o).after (ctx.opening c) := by
  simp only [start, h, hoptions, if_true]
  rfl

/-- The first turn of a container ends it as soon as its questions are answered, or opens its check. -/
lemma start_cases (ctx : Context) (time : Nat) (cancelled : Bool) (n : Nat) (c : Container) :
    (∃ asked e, (∀ ev ∈ asked, Event.isQuestion ev = true) ∧
      ctx.start time cancelled n c = (ctx.ending time c e).after asked) ∨
    ∃ o, ctx.resolver.options c.name = .ok o ∧
      ctx.start time cancelled n c = (ctx.check time cancelled n c o).after (ctx.opening c) := by
  cases henabled : ctx.resolver.isEnabled ctx.limits.checkByDefault c.name with
  | false =>
    exact .inl ⟨_, _, by simp [Event.isQuestion], start_of_isEnabled_eq_false time cancelled n henabled⟩
  | true =>
    cases hoptions : ctx.resolver.options c.name with
    | error issues =>
      exact .inl ⟨_, _, by simp [Event.isQuestion],
        start_of_options_eq_error time cancelled n henabled hoptions⟩
    | ok o => exact .inr ⟨o, rfl, start_of_options_eq_ok time cancelled n henabled hoptions⟩

/-- A container that has just begun has an account. -/
lemma account_start (time : Nat) (cancelled : Bool) (n : Nat) (c : Container) :
    ctx.Account c (ctx.start time cancelled n c).events (ctx.start time cancelled n c).progress := by
  cases henabled : ctx.resolver.isEnabled ctx.limits.checkByDefault c.name with
  | false =>
    rw [start_of_isEnabled_eq_false time cancelled n henabled]
    exact .disabled henabled
  | true =>
    cases hoptions : ctx.resolver.options c.name with
    | error issues =>
      rw [start_of_options_eq_error time cancelled n henabled hoptions]
      exact .misconfigured henabled hoptions
    | ok o =>
      rw [start_of_options_eq_ok time cancelled n henabled hoptions]
      have hturn : ctx.CheckTurn c time (ctx.check time cancelled n c o) :=
        checkTurn_check time cancelled n c o
      have haccount : ctx.Account c (ctx.opening c ++ [] ++ (ctx.check time cancelled n c o).events)
          (ctx.check time cancelled n c o).progress :=
        account_of_checkTurn henabled hoptions (fun _ he => absurd he List.not_mem_nil) hturn
      rwa [List.append_nil] at haccount

/-- A further turn of a check continues the account of its container. -/
lemma Account.append {es : List Event} {check : Check} {time : Nat} {t : Turn}
    (h : ctx.Account c es (.waiting check)) (ht : ctx.CheckTurn c time t) :
    ctx.Account c (es ++ t.events) t.progress := by
  cases h with
  | checking henabled hoptions hpre => exact account_of_checkTurn henabled hoptions hpre ht

/-- What is read from a container that has ended is what is read from its ending, if nothing is read from the
questions, from what opens a check, from what stands aside and from answers. -/
lemma Account.filterMap_of_ended {α : Type} {f : Event → Option α} {es : List Event} {time : Nat}
    {e : Ending} (hquestion : ∀ ev : Event, ev.isQuestion = true → f ev = none)
    (hopening : (ctx.opening c).filterMap f = []) (haside : ∀ ev : Event, ev.isAside = true → f ev = none)
    (hanswer : ∀ a, f (.checkEnded a) = none) (h : ctx.Account c es (.ended time e)) :
    es.filterMap f = (ctx.endingEvents c e).filterMap f := by
  cases h with
  | disabled _ => exact List.filterMap_cons_none (hquestion _ rfl)
  | misconfigured _ _ =>
    rw [List.filterMap_cons_none (hquestion _ rfl), List.filterMap_cons_none (hquestion _ rfl)]
  | checked _ _ hpre =>
    rw [List.filterMap_append, List.filterMap_append, hopening, filterMap_of_isAside haside hpre,
      List.filterMap_cons_none (hanswer _)]
    rfl

end Context

end Freshness.Sync
