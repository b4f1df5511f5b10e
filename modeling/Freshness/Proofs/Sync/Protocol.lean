import Freshness.Proofs.Sync.Calls

/-!
# What a container exchanges with the others

The containers of a pod share one resolver, one checker and one store.  `exchangesAt` reads from a trace what
one container has to do with them, and `Exchanges` says which sequences there are: a container asks whether it
is checked; one that is not clears its place in the store; one that is asks for its options; unless these are
wrong or the work is already cancelled it calls the checker, once and with these options; it hears at most one
reply; and only a reply with a verdict puts an entry into its place.

A reply is heard only by a check that is still to wake.  Up to then a container has exchanged nothing since
the call (`Story.exchanges`), so that the exchanges of every container keep to this order, whatever happens
to the others in between (`exchanges_report`).
-/

namespace Freshness.Sync

/-- Whether an event is an exchange with the resolver, the checker or the store. -/
def Event.isExchange : Event → Bool
  | enablementAsked _ _ _ => true
  | optionsAsked _ => true
  | checkCalled _ _ => true
  | replied _ => true
  | changed _ => true
  | _ => false

/-- The exchanges of the container at a position, in their order. -/
def exchangesAt (trace : List Moment) (i : Nat) : List Event := (eventsAt trace i).filter (·.isExchange)

namespace Context

/-- What a container that is checked exchanges up to the call of its check. -/
def calling (ctx : Context) (c : Container) (o : Options) : List Event :=
  [.enablementAsked c.name ctx.limits.checkByDefault true, .optionsAsked c.name, .checkCalled c o]

/-- What a container exchanges, as far as it has come, if `n` calls had been made for its name when it began
and `cancelled` says whether the work was cancelled by then. -/
inductive Exchanges (ctx : Context) (c : Container) (n : Nat) (cancelled : Bool) : List Event → Prop where
  | unbegun : Exchanges ctx c n cancelled []
  | disabled (henabled : ctx.resolver.isEnabled ctx.limits.checkByDefault c.name = false) :
      Exchanges ctx c n cancelled
        [.enablementAsked c.name ctx.limits.checkByDefault false, .changed (.remove (ctx.key c))]
  | misconfigured {issues : List Issue}
      (henabled : ctx.resolver.isEnabled ctx.limits.checkByDefault c.name = true)
      (hoptions : ctx.resolver.options c.name = .error issues) :
      Exchanges ctx c n cancelled
        [.enablementAsked c.name ctx.limits.checkByDefault true, .optionsAsked c.name]
  | late {o : Options} (henabled : ctx.resolver.isEnabled ctx.limits.checkByDefault c.name = true)
      (hoptions : ctx.resolver.options c.name = .ok o) (hcancelled : cancelled = true) :
      Exchanges ctx c n cancelled
        [.enablementAsked c.name ctx.limits.checkByDefault true, .optionsAsked c.name]
  | called {o : Options} (henabled : ctx.resolver.isEnabled ctx.limits.checkByDefault c.name = true)
      (hoptions : ctx.resolver.options c.name = .ok o) (hcancelled : cancelled = false) :
      Exchanges ctx c n cancelled (ctx.calling c o)
  | replied {o : Options} (henabled : ctx.resolver.isEnabled ctx.limits.checkByDefault c.name = true)
      (hoptions : ctx.resolver.options c.name = .ok o) (hcancelled : cancelled = false)
      (hreply : ∀ v, (ctx.checker.call c o n).answer ≠ some (.found v)) :
      Exchanges ctx c n cancelled (ctx.calling c o ++ [.replied c.name])
  | recorded {o : Options} {v : Verdict}
      (henabled : ctx.resolver.isEnabled ctx.limits.checkByDefault c.name = true)
      (hoptions : ctx.resolver.options c.name = .ok o) (hcancelled : cancelled = false)
      (hreply : (ctx.checker.call c o n).answer = some (.found v)) :
      Exchanges ctx c n cancelled
        (ctx.calling c o ++ [.replied c.name, .changed (.add ⟨ctx.key c, v⟩)])

variable {ctx : Context} {c : Container} {o : Options} {n : Nat} {b : Bool}

/-! ## Turns -/

/-- A check that fails exchanges nothing more. -/
lemma filter_isExchange_settle_failed (time : Nat) (c : Container) (f : CheckFailure) :
    (ctx.settle time c (.failed f)).events.filter (·.isExchange) = [] := by
  cases f <;> rfl

/-- A check that goes on waiting exchanges nothing, also when its deadline is due. -/
lemma filter_isExchange_await (time : Nat) (c : Container) (check : Check) :
    (ctx.await time c check).events.filter (·.isExchange) = [] := by
  unfold await
  split
  · exact filter_isExchange_settle_failed time c _
  · rfl

/-- The cancelling of the work by a check is no exchange. -/
lemma filter_isExchange_cancelling (cancels : Bool) :
    (cancelling cancels).filter (·.isExchange) = [] := by
  cases cancels <;> rfl

/-- A check that is done with waiting exchanges its reply and what is before and after it: nothing, or the
entry of a verdict. -/
lemma filter_isExchange_conclude (time : Nat) (c : Container) (check : Check) :
    (ctx.conclude time c check).events.filter (·.isExchange) =
      .replied c.name :: (match check.conduct.answer with
        | some (.found v) => [.changed (.add ⟨ctx.key c, v⟩)]
        | _ => []) := by
  have hreplied : (cancelling check.conduct.cancelsLast ++ [Event.replied c.name]).filter (·.isExchange) =
      [.replied c.name] := by
    rw [List.filter_append, filter_isExchange_cancelling]
    rfl
  unfold conclude Turn.after
  rw [List.filter_append, hreplied, List.singleton_append]
  refine congrArg (Event.replied c.name :: ·) ?_
  cases check.conduct.answer with
  | none => exact filter_isExchange_await time c _
  | some a =>
    cases a with
    | pending => rfl
    | found v => rfl
    | failed f => exact filter_isExchange_settle_failed time c f

/-- A check that was called and is done with waiting has exchanged its call and its reply, and an entry if
the reply holds a verdict. -/
lemma Exchanges.of_conclude {check : Check}
    (henabled : ctx.resolver.isEnabled ctx.limits.checkByDefault c.name = true)
    (hoptions : ctx.resolver.options c.name = .ok o) (hb : b = false)
    (hconduct : check.conduct = ctx.checker.call c o n) (time : Nat) :
    ctx.Exchanges c n b
      (ctx.calling c o ++ (ctx.conclude time c check).events.filter (·.isExchange)) := by
  rw [filter_isExchange_conclude, hconduct]
  cases hanswer : (ctx.checker.call c o n).answer with
  | none => exact .replied henabled hoptions hb (by simp [hanswer])
  | some a =>
    cases a with
    | pending => exact .replied henabled hoptions hb (by simp [hanswer])
    | found v => exact .recorded henabled hoptions hb hanswer
    | failed f => exact .replied henabled hoptions hb (by simp [hanswer])

/-- What opens the work on a container are the two questions. -/
lemma filter_isExchange_opening (c : Container) :
    (ctx.opening c).filter (·.isExchange) =
      [.enablementAsked c.name ctx.limits.checkByDefault true, .optionsAsked c.name] := rfl

/-- In the turn in which a check is called its call comes first, and what is exchanged after it is what it
exchanges when it is done with waiting at once, or nothing. -/
lemma filter_isExchange_callCheck (time : Nat) (c : Container) (o : Options) (n : Nat) :
    (ctx.callCheck time c o n).events.filter (·.isExchange) =
      .checkCalled c o :: if (ctx.checker.call c o n).delay = 0 then
        (ctx.conclude time c ⟨ctx.checker.call c o n, none,
          ctx.limits.deadline.map (time + ·.ceilMillis)⟩).events.filter (·.isExchange) else [] := by
  have hcalled : (Event.checkCalled c o ::
      cancelling (ctx.checker.call c o n).cancelsFirst).filter (·.isExchange) = [.checkCalled c o] := by
    rw [List.filter_cons_of_pos rfl, filter_isExchange_cancelling]
  unfold callCheck Turn.after
  rw [List.filter_append, hcalled, List.singleton_append]
  refine congrArg (Event.checkCalled c o :: ·) ?_
  split
  · rfl
  · exact filter_isExchange_await time c _

/-- A check that is still to wake after the turn in which it was called has exchanged its call only. -/
lemma filter_isExchange_callCheck_of_wake {time w : Nat} {check : Check}
    (hwaiting : (ctx.callCheck time c o n).progress = .waiting check) (hwake : check.wake = some w) :
    (ctx.callCheck time c o n).events.filter (·.isExchange) = [.checkCalled c o] := by
  have hdelay : (ctx.checker.call c o n).delay ≠ 0 := by
    intro hzero
    simp only [callCheck, Turn.after, if_pos hzero] at hwaiting
    obtain ⟨-, rfl⟩ := eq_of_conclude_eq_waiting hwaiting
    cases hwake
  rw [filter_isExchange_callCheck, if_neg hdelay]

/-- The first turn of a container keeps to the order. -/
lemma exchanges_start (time n : Nat) (b : Bool) (c : Container) :
    ctx.Exchanges c n b ((ctx.start time b n c).events.filter (·.isExchange)) := by
  cases henabled : ctx.resolver.isEnabled ctx.limits.checkByDefault c.name with
  | false =>
    rw [start_of_isEnabled_eq_false time b n henabled]
    exact .disabled henabled
  | true =>
    cases hoptions : ctx.resolver.options c.name with
    | error issues =>
      rw [start_of_options_eq_error time b n henabled hoptions]
      exact .misconfigured henabled hoptions
    | ok o =>
      rw [start_of_options_eq_ok time b n henabled hoptions]
      cases b with
      | true => exact .late henabled hoptions rfl
      | false =>
        have hevents : ((ctx.check time false n c o).after (ctx.opening c)).events.filter (·.isExchange) =
            [.enablementAsked c.name ctx.limits.checkByDefault true, .optionsAsked c.name] ++
              (ctx.callCheck time c o n).events.filter (·.isExchange) := by
          rw [Turn.after, List.filter_append, filter_isExchange_opening]
          rfl
        rw [hevents, filter_isExchange_callCheck]
        by_cases hdelay : (ctx.checker.call c o n).delay = 0
        · rw [if_pos hdelay]
          exact .of_conclude henabled hoptions rfl rfl time
        · rw [if_neg hdelay]
          exact .called henabled hoptions rfl

/-! ## Stories -/

/-- A check that is still to wake has exchanged nothing after its call. -/
lemma Story.filter_isExchange_of_wake {x : Bool} {i begun w : Nat} {ms : List Moment} {check : Check}
    (h : ctx.Story x i c begun n b ms (.waiting check)) (hwake : check.wake = some w) :
    ∃ o, ctx.CheckOf c begun n o check ∧
      (ms.map (·.event)).filter (·.isExchange) = ctx.calling c o := by
  generalize hp : Progress.waiting check = p at h
  induction h with
  | begin =>
    obtain ⟨-, o, hstart, hcheck⟩ := checkOf_of_start_eq_waiting hp.symm
    have hwaiting : (ctx.callCheck begun c o n).progress = .waiting check := by
      rw [hp, hstart]
      rfl
    refine ⟨o, hcheck, ?_⟩
    rw [map_event_moments, hstart, Turn.after, List.filter_append, filter_isExchange_opening,
      filter_isExchange_callCheck_of_wake hwaiting hwake]
    rfl
  | resume _ ht _ =>
    -- a further turn leaves no check that is still to wake
    cases ht with
    | giveUp _ => cases hp
    | wake _ _ =>
      obtain ⟨-, rfl⟩ := eq_of_conclude_eq_waiting hp.symm
      cases hwake
    | lapse _ _ => cases hp

/-- The exchanges in every story keep to the order. -/
theorem Story.exchanges {x : Bool} {i begun : Nat} {ms : List Moment} {p : Progress}
    (h : ctx.Story x i c begun n b ms p) :
    ctx.Exchanges c n b ((ms.map (·.event)).filter (·.isExchange)) := by
  induction h with
  | begin =>
    rw [map_event_moments]
    exact exchanges_start begun n b c
  | @resume ms check time t spans hstory ht ih =>
    rw [List.map_append, map_event_moments, List.filter_append]
    cases ht with
    | giveUp _ => rwa [filter_isExchange_settle_failed, List.append_nil]
    | wake hwake _ =>
      obtain ⟨o, hcheck, hcalling⟩ := hstory.filter_isExchange_of_wake hwake
      obtain ⟨hb, -⟩ := hstory.checkOf
      rw [hcalling]
      exact .of_conclude hstory.account.isEnabled_of_waiting hcheck.options hb hcheck.conduct time
    | lapse _ _ =>
      have hlapsed : (ctx.settle time c ctx.deadlinePassed).events.filter (·.isExchange) = [] :=
        filter_isExchange_settle_failed time c _
      rwa [hlapsed, List.append_nil]

/-- A container that has begun has asked whether it is checked. -/
lemma Account.filter_isExchange_ne_nil {es : List Event} {p : Progress} (h : ctx.Account c es p) :
    es.filter (·.isExchange) ≠ [] := by
  cases h <;> exact List.cons_ne_nil _ _

/-! ## Reports -/

variable (setup : Setup) (earlier : String → Nat) (t : Task)

/-- The exchanges of every container keep to the order in a report. -/
lemma exchanges_exchangesAt {i : Nat} (hc : t.pod.containers[i]? = some c) :
    (setup.context t.pod).Exchanges c
      (earlier c.name + callsIn (before (setup.report earlier t).trace i) c.name)
      (cancelledIn (before (setup.report earlier t).trace i))
      (exchangesAt (setup.report earlier t).trace i) := by
  rcases told_or_eventsAt_eq_nil setup earlier t hc with hnil | ⟨slot, rfl, htold⟩
  · rw [exchangesAt, hnil]
    exact .unbegun
  · rw [exchangesAt, report_eq, eventsAt_report]
    exact htold.story.exchanges

/-- A container that has come to an ending has exchanged something. -/
lemma exchangesAt_ne_nil {i : Nat} {es : List Ending} (hes : (setup.report earlier t).endings = some es)
    (hc : t.pod.containers[i]? = some c) : exchangesAt (setup.report earlier t).trace i ≠ [] := by
  obtain ⟨hlength, hconcluded⟩ := concluded_of_endings_eq_some hes
  obtain ⟨e, he⟩ := exists_ending_of_length hlength hc
  obtain ⟨begun, time, hstory⟩ := hconcluded i c e hc he
  exact hstory.account.filter_isExchange_ne_nil

end Context

/-- The checking of a container is asked for by the text `true`, or left to the default by no text. -/
lemma isEnabled_ofAnnotations_eq_true_iff (compiler : Pattern.Compiler) (a : Annotations) (byDefault : Bool)
    (name : String) :
    (Resolver.ofAnnotations compiler a).isEnabled byDefault name = true ↔
      a.get? ("enable.version-checker.io/" ++ name) = some "true" ∨
        a.get? ("enable.version-checker.io/" ++ name) = none ∧ byDefault = true := by
  have hkey : a.setting? .enable name = a.get? ("enable.version-checker.io/" ++ name) := rfl
  simp only [Resolver.ofAnnotations, Options.isEnabled, hkey]
  cases a.get? ("enable.version-checker.io/" ++ name) with
  | none => simp
  | some v => simp

/-- The options of a container are read from the annotations. -/
lemma options_ofAnnotations (compiler : Pattern.Compiler) (a : Annotations) (name : String) :
    (Resolver.ofAnnotations compiler a).options name = Options.resolve compiler a name := rfl

/-- **Every container keeps to the protocol.**  With the resolver that reads annotations, with any compiler of
patterns, for any checker and store, any limits, earlier calls and cancellation: what a container has exchanged
with the resolver, the checker and the store is one of the sequences that `Exchanges` lists, and it has exchanged
something once the work has come to its end; it is checked exactly if its annotation is the text `true`, or there
is none and containers are checked by default; its options are those of the annotations of this pod.  Nothing is
exchanged but at the position of a container, and whatever reaches the checker is the container at that position
with its own options. -/
theorem exchanges_report (checker : Checker) (store : Store) (compiler : Pattern.Compiler) (limits : Limits)
    (earlier : String → Nat) (t : Task) :
    let setup : Setup := ⟨checker, store, .ofAnnotations compiler, limits⟩
    let r := setup.report earlier t
    let ctx := setup.context t.pod
    let a := t.pod.annotations
    (∀ i c, t.pod.containers[i]? = some c →
      ctx.Exchanges c (earlier c.name + callsIn (before r.trace i) c.name) (cancelledIn (before r.trace i))
        (exchangesAt r.trace i) ∧
      (r.endings ≠ none → exchangesAt r.trace i ≠ []) ∧
      (ctx.resolver.isEnabled ctx.limits.checkByDefault c.name = true ↔
        a.get? ("enable.version-checker.io/" ++ c.name) = some "true" ∨
          a.get? ("enable.version-checker.io/" ++ c.name) = none ∧ limits.checkByDefault = true) ∧
      ctx.resolver.options c.name = Options.resolve compiler a c.name) ∧
    (∀ m ∈ r.trace, m.event.isExchange = true →
      ∃ i c, m.position = some i ∧ t.pod.containers[i]? = some c) ∧
    ∀ m ∈ r.trace, ∀ c o, m.event = .checkCalled c o →
      ∃ i, m.position = some i ∧ t.pod.containers[i]? = some c ∧ Options.resolve compiler a c.name = .ok o := by
  intro setup r ctx a
  have hresolver : ctx.resolver = .ofAnnotations compiler a := rfl
  have hoptions : ∀ name, ctx.resolver.options name = Options.resolve compiler a name := fun name => by
    rw [hresolver, options_ofAnnotations]
  refine ⟨fun i c hc => ⟨Context.exchanges_exchangesAt setup earlier t hc, fun hended => ?_,
    isEnabled_ofAnnotations_eq_true_iff compiler a limits.checkByDefault c.name, hoptions c.name⟩,
    fun m hm hexchange => ?_, fun m hm c o hcall => ?_⟩
  · obtain ⟨es, hes⟩ := Option.ne_none_iff_exists'.1 hended
    exact Context.exchangesAt_ne_nil setup earlier t hes hc
  · rcases Context.inPlace_report setup earlier t m hm with (⟨-, he⟩ | ⟨i, c, hi, hc, -⟩) | ⟨-, hnote⟩
    · rcases he with he | he <;> rw [he] at hexchange <;> cases hexchange
    · exact ⟨i, c, hi, hc⟩
    · cases he : m.event <;> simp [he, Event.isNote, Event.isExchange] at hnote hexchange
  · rcases Context.inPlace_report setup earlier t m hm with
      (⟨-, he⟩ | ⟨i, d, hi, hd, hown⟩) | ⟨-, hnote⟩
    · rcases he with he | he <;> rw [hcall] at he <;> cases he
    · rw [hcall] at hown
      cases hown with
      | checkCalled hown => exact ⟨i, hi, hd, (hoptions c.name).symm.trans hown⟩
    · rw [hcall] at hnote
      cases hnote

end Freshness.Sync
