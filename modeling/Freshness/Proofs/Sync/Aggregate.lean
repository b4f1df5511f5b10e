import Freshness.Proofs.Sync.Report

/-!
# The result of the work on a pod

The containers of a pod are attempted one after the other, each exactly once.  Their checks may end in any
order, yet the failures stand in the order of the containers.  `result?_report` says of every run in which
each check that was called ends what the result is: which containers were attempted, with which answer the
check of each of them ended, and which failures the result is made of.  `failureGiven?` says what failure
a container amounts to, given the answers of its check.
-/

namespace Freshness.Sync

/-- The name of the container with which an event begins the work on it. -/
def Event.attempted? : Event → Option String
  | enablementAsked name _ _ => some name
  | _ => none

/-- The containers whose work began, by position and name, in the order in which it began. -/
def attempts (trace : List Moment) : List (Option Nat × String) :=
  trace.filterMap fun m => m.event.attempted?.map fun name => (m.position, name)

/-- What the work on a pod returns, unless it never comes to its end. -/
def Report.result? (r : Report) : Option (Except PodFailure Unit) :=
  r.endings.map fun _ =>
    match r.failure? with
    | some f => .error f
    | none => .ok ()

/-- The failure that a container amounts to, given the answers with which its check ended. -/
def Context.failureGiven? (ctx : Context) (c : Container) (answers : List Answer) :
    Option ContainerFailure :=
  match ctx.resolver.isEnabled ctx.limits.checkByDefault c.name, ctx.resolver.options c.name, answers with
  | true, .error issues, _ => some (.configuration c.name issues)
  | true, .ok _, [.failed (.noVersionFound _)] => none
  | true, .ok _, [.failed e] => some (.check c.name e)
  | _, _, _ => none

/-- The failures that the containers of a pod amount to by what a trace has at their positions, in the
order of the containers. -/
def Context.failuresGiven (ctx : Context) (containers : List Container) (trace : List Moment) :
    List ContainerFailure :=
  containers.zipIdx.filterMap fun (c, i) => ctx.failureGiven? c (answersAt trace i)

/-! ## Attempts -/

lemma attempts_append (l m : List Moment) : attempts (l ++ m) = attempts l ++ attempts m :=
  List.filterMap_append ..

/-- What is attempted in a turn is attempted at its position. -/
lemma attempts_moments (t : Turn) (time i : Nat) (spans : List Log.Span) :
    attempts (t.moments time i spans) = (t.events.filterMap (·.attempted?)).map fun name => (some i, name) := by
  unfold attempts Turn.moments
  rw [List.filterMap_map, List.map_filterMap]
  rfl

/-- Where nothing begins nothing is attempted. -/
lemma attempts_eq_nil {l : List Moment} (h : ∀ m ∈ l, m.event.attempted? = none) : attempts l = [] := by
  refine List.filterMap_eq_nil_iff.2 fun m hm => ?_
  rw [h m hm]
  rfl

namespace Context

variable {ctx : Context} {c : Container} {es : List Event}

/-- Nothing begins in the events of an ending. -/
lemma filterMap_attempted?_endingEvents (c : Container) (e : Ending) :
    (ctx.endingEvents c e).filterMap (·.attempted?) = [] := by
  cases e <;> rfl

/-- Nothing begins in what stands aside. -/
lemma filterMap_attempted?_of_isAside {pre : List Event} (hpre : ∀ e ∈ pre, e.isAside = true) :
    pre.filterMap (·.attempted?) = [] := by
  refine filterMap_of_isAside (fun ev haside => ?_) hpre
  cases ev <;> simp_all [Event.isAside, Event.attempted?]

/-- Nothing begins in a further turn of a check. -/
lemma CheckTurn.filterMap_attempted? {time : Nat} {t : Turn} (h : ctx.CheckTurn c time t) :
    t.events.filterMap (·.attempted?) = [] := by
  cases h with
  | waits hpre => exact filterMap_attempted?_of_isAside hpre
  | @ends pre a hpre =>
    have hsettle : (ctx.settle time c a).events.filterMap (·.attempted?) = [] :=
      filterMap_attempted?_endingEvents c (endingOf c a)
    rw [Turn.after, List.filterMap_append, filterMap_attempted?_of_isAside hpre, hsettle]
    rfl

/-- The work on a container begins once in what it has come to. -/
lemma Account.filterMap_attempted? {p : Progress} (h : ctx.Account c es p) :
    es.filterMap (·.attempted?) = [c.name] := by
  have hopening : (ctx.opening c).filterMap (·.attempted?) = [c.name] := rfl
  cases h with
  | disabled _ => rfl
  | misconfigured _ _ => rfl
  | checking _ _ hpre =>
    rw [List.filterMap_append, hopening, filterMap_attempted?_of_isAside hpre]
    rfl
  | @checked _ _ pre a _ _ hpre =>
    have hends : (Event.checkEnded a :: ctx.endingEvents c (endingOf c a)).filterMap (·.attempted?) = [] :=
      filterMap_attempted?_endingEvents c (endingOf c a)
    rw [List.filterMap_append, List.filterMap_append, hopening, filterMap_attempted?_of_isAside hpre, hends]
    rfl

/-- The attempts on a list of containers, one after the other. -/
def attemptsOn (containers : List Container) : List (Option Nat × String) :=
  containers.zipIdx.map fun (c, i) => (some i, c.name)

/-- The attempt on one more container comes last. -/
lemma attemptsOn_concat (containers : List Container) (c : Container) :
    attemptsOn (containers ++ [c]) = attemptsOn containers ++ [(some containers.length, c.name)] := by
  simp [attemptsOn, List.zipIdx_append]

variable {earlier : String → Nat} {s s' : State}

/-- A step attempts the container that begins, and no other. -/
lemma attempts_step (h : attempts s.trace = attemptsOn (s.slots.map (·.container)))
    (hstep : ctx.Step earlier s s') :
    attempts s'.trace = attemptsOn (s'.slots.map (·.container)) := by
  rcases hstep.cases_turn with ⟨time, rfl⟩ | ⟨c, rest, -, rfl⟩ |
    ⟨time, i, slot, check, t, hslot, -, ht, rfl⟩
  · have hnone : attempts [(⟨time, none, s.entered, .cancelled⟩ : Moment)] = [] := rfl
    have htrace : attempts (s.trace ++ [(⟨time, none, s.entered, .cancelled⟩ : Moment)]) = attempts s.trace := by
      rw [attempts_append, hnone, List.append_nil]
    exact htrace.trans h
  · have hbegin : (ctx.firstTurn earlier s c).events.filterMap (·.attempted?) = [c.name] :=
      (account_start _ _ _ c).filterMap_attempted?
    have hslots : (ctx.beginNext earlier s c rest).slots.map (·.container) =
        s.slots.map (·.container) ++ [c] := List.map_append ..
    rw [trace_beginNext, attempts_append, attempts_moments, hbegin, h, hslots, attemptsOn_concat,
      List.length_map, List.map_singleton]
  · rw [State.trace_turn, attempts_append, attempts_moments, ht.checkTurn.filterMap_attempted?,
      State.slots_turn, map_container_set hslot, ← h, List.map_nil, List.append_nil]

/-- At every point of the course exactly those containers have been attempted that have begun, one after
the other. -/
theorem attempts_steps (earlier : String → Nat) (t : Task) (n : Nat) :
    attempts (ctx.steps earlier n t.start).trace =
      attemptsOn ((ctx.steps earlier n t.start).slots.map (·.container)) := by
  have hstart : attempts t.start.trace = attemptsOn (t.start.slots.map (·.container)) := by
    refine attempts_eq_nil fun m hm => ?_
    rcases (position_of_mem_trace_start hm).2 with he | he <;> rw [he] <;> rfl
  exact steps_invariant (P := fun s => attempts s.trace = attemptsOn (s.slots.map (·.container)))
    hstart attempts_step n

/-! ## Failures -/

/-- The failure of a container that has ended is the one that its answers amount to. -/
lemma Account.failure?_eq {time : Nat} {e : Ending} (h : ctx.Account c es (.ended time e)) :
    e.failure? = ctx.failureGiven? c (es.filterMap (·.answer?)) := by
  cases h with
  | disabled henabled =>
    unfold failureGiven?
    rw [henabled]
    rfl
  | misconfigured henabled hoptions =>
    unfold failureGiven?
    rw [henabled, hoptions]
    rfl
  | @checked _ _ pre a henabled hoptions hpre =>
    unfold failureGiven?
    rw [filterMap_answer?_checked hpre, henabled, hoptions]
    cases a with
    | pending => rfl
    | found v => rfl
    | failed f => cases f <;> rfl

/-- A container that has ended with a check has one answer, whose origin is known. -/
lemma Concluded.exists_answer {trace : List Moment} {i : Nat} {e : Ending} {o : Options}
    (h : ctx.Concluded earlier trace i c e)
    (henabled : ctx.resolver.isEnabled ctx.limits.checkByDefault c.name = true)
    (hoptions : ctx.resolver.options c.name = .ok o) :
    ∃ a, answersAt trace i = [a] ∧
      ctx.AnswerOf (cancelledIn trace) c (earlier c.name + callsIn (before trace i) c.name)
        (cancelledIn (before trace i)) a := by
  obtain ⟨begun, time, hstory⟩ := h
  have haccount : ctx.Account c (eventsAt trace i) (.ended time e) := hstory.account
  unfold answersAt
  generalize hes : eventsAt trace i = es at haccount
  cases haccount with
  | disabled hdisabled =>
    rw [henabled] at hdisabled
    cases hdisabled
  | misconfigured _ herror =>
    rw [hoptions] at herror
    cases herror
  | @checked _ _ pre a _ _ hpre =>
    refine ⟨a, filterMap_answer?_checked hpre, hstory.answerOf ?_⟩
    have hends : Event.checkEnded a ∈ eventsAt trace i := by
      rw [hes]
      exact List.mem_append_right _ List.mem_cons_self
    exact hends

/-- Lists of one length yield the same values if their members do at each position. -/
lemma filterMap_eq_filterMap {α β γ : Type} {f : α → Option γ} {g : β → Option γ} {l : List α} {m : List β}
    (hlength : l.length = m.length)
    (h : ∀ (i : Nat) (x : α) (y : β), l[i]? = some x → m[i]? = some y → f x = g y) :
    l.filterMap f = m.filterMap g := by
  have hmap : l.map f = m.map g := by
    refine List.ext_getElem (by simp [hlength]) fun i hi hi' => ?_
    rw [List.length_map] at hi hi'
    rw [List.getElem_map, List.getElem_map]
    exact h i _ _ (List.getElem?_eq_getElem hi) (List.getElem?_eq_getElem hi')
  have hid := congrArg (List.filterMap id) hmap
  rw [List.filterMap_map, List.filterMap_map] at hid
  exact hid

/-- If every container has come to its ending, their failures are the ones that they amount to. -/
lemma failuresOf_eq_failuresGiven {containers : List Container} {trace : List Moment}
    {endings : List Ending} (hlength : endings.length = containers.length)
    (h : ∀ i c e, containers[i]? = some c → endings[i]? = some e → ctx.Concluded earlier trace i c e) :
    Report.failuresOf endings = ctx.failuresGiven containers trace := by
  refine filterMap_eq_filterMap (by rw [hlength, List.length_zipIdx]) fun i e p he hp => ?_
  obtain ⟨c, j⟩ := p
  obtain ⟨hc, rfl⟩ : containers[i]? = some c ∧ i = j := by
    simpa [List.getElem?_zipIdx] using hp
  obtain ⟨begun, time, hstory⟩ := h i c e hc he
  exact hstory.account.failure?_eq

end Context

/-! ## Results -/

/-- The notes in the report attempt nothing. -/
lemma attempts_report (pod : PodId) (s : State) :
    attempts (s.report pod).trace = attempts s.trace := by
  refine filterMap_report (fun m _ hnote => ?_) pod s
  cases he : m.event <;> simp [he, Event.isNote, Event.attempted?] at hnote ⊢

/-- Where the report tells endings each container has been attempted, in the order of the containers. -/
lemma attempts_report_of_endings {setup : Setup} {earlier : String → Nat} {t : Task} {es : List Ending}
    (hes : (setup.report earlier t).endings = some es) :
    attempts (setup.report earlier t).trace =
      t.pod.containers.zipIdx.map fun (c, i) => (some i, c.name) := by
  have hfinal : (setup.final earlier t).endings? = some es := hes
  unfold State.endings? at hfinal
  obtain ⟨hempty, -⟩ := (Option.ite_none_right_eq_some).1 hfinal
  have hattempts : attempts (setup.final earlier t).trace =
      Context.attemptsOn ((setup.final earlier t).slots.map (·.container)) :=
    Context.attempts_steps earlier t _
  rw [Context.map_container_final (List.isEmpty_iff.1 hempty)] at hattempts
  exact (attempts_report t.pod.id _).trans hattempts

/-- The result is made of the failures among the endings, in the order of the containers. -/
lemma result?_report_of_endings {setup : Setup} {earlier : String → Nat} {t : Task} {es : List Ending}
    (hes : (setup.report earlier t).endings = some es) :
    (setup.report earlier t).result? = some (if (Report.failuresOf es).isEmpty then .ok ()
      else .error ⟨⟨t.pod.namespaceName.getD "default", t.pod.name.getD ""⟩, Report.failuresOf es⟩) := by
  have hfailure : (setup.report earlier t).failure? =
      PodFailure.ofFailures? t.pod.id (Report.failuresOf es) := by
    unfold Report.failure?
    rw [hes]
    rfl
  unfold Report.result?
  rw [hes, Option.map_some, hfailure]
  unfold PodFailure.ofFailures?
  cases (Report.failuresOf es).isEmpty <;> rfl

/-- In every run in which each check that was called comes to an answer, each container is attempted
exactly once, in the order of the containers; the check of each container that has one ends with a single
answer, which is the checker's own unless the check was cancelled or passed its deadline; and the result is
the failure of the pod with exactly the failures that the containers amount to, in their order, or success
without them. -/
theorem result?_report {setup : Setup} {earlier : String → Nat} {t : Task}
    (hn : 0 < setup.limits.concurrency) (hends : (setup.report earlier t).StartedChecksEnd) :
    let r := setup.report earlier t
    let ctx := setup.context t.pod
    let failures := ctx.failuresGiven t.pod.containers r.trace
    attempts r.trace = t.pod.containers.zipIdx.map (fun (c, i) => (some i, c.name)) ∧
    (∀ i c o, t.pod.containers[i]? = some c →
      ctx.resolver.isEnabled ctx.limits.checkByDefault c.name = true →
      ctx.resolver.options c.name = .ok o →
      ∃ a, answersAt r.trace i = [a] ∧
        ctx.AnswerOf (cancelledIn r.trace) c (earlier c.name + callsIn (before r.trace i) c.name)
          (cancelledIn (before r.trace i)) a) ∧
    r.result? = some (if failures.isEmpty then .ok ()
      else .error ⟨⟨t.pod.namespaceName.getD "default", t.pod.name.getD ""⟩, failures⟩) := by
  intro r ctx failures
  obtain ⟨es, hes⟩ := Context.exists_endings hn hends
  obtain ⟨hlength, hconcluded⟩ := Context.concluded_of_endings_eq_some hes
  refine ⟨?_, fun i c o hc henabled hoptions => ?_, ?_⟩
  · have hfinal : attempts (setup.final earlier t).trace =
        Context.attemptsOn ((setup.final earlier t).slots.map (·.container)) :=
      Context.attempts_steps earlier t _
    rw [Context.map_container_final (Context.not_isWaiting_final hn hends).1] at hfinal
    exact (attempts_report t.pod.id _).trans hfinal
  · obtain ⟨e, he⟩ : ∃ e, es[i]? = some e := by
      have hi := (List.getElem?_eq_some_iff.1 hc).1
      exact ⟨_, List.getElem?_eq_getElem (hlength ▸ hi)⟩
    exact (hconcluded i c e hc he).exists_answer henabled hoptions
  · have hfailures : Report.failuresOf es = failures :=
      Context.failuresOf_eq_failuresGiven hlength hconcluded
    have hfailure : r.failure? = PodFailure.ofFailures? t.pod.id failures := by
      unfold Report.failure?
      rw [hes, ← hfailures]
      rfl
    unfold Report.result?
    rw [hes, Option.map_some, hfailure]
    unfold PodFailure.ofFailures?
    cases failures.isEmpty <;> rfl

-- Two checks are due at one time.  The second one takes its turn, and cancels the work in it, before the third
-- container begins in the place of the first.
example :
    let setup : Setup :=
      { checker := Script.checker
          ⟨[("a", [{ delay := 100, answer := .given .pending }]),
            ("b", [{ delay := 100, cancelsLast := true, answer := .given .pending }])]⟩
        store := .empty
        resolver := fun _ => .ofTables [] [] []
        limits := ⟨true, none, 2⟩ }
    let pod : Pod := { name := some "web-0", containers := ["a", "b", "c"].map (⟨·, none⟩) }
    (setup.report (fun _ => 0) { pod := pod }).result? =
      some (.error ⟨⟨"default", "web-0"⟩, [.check "c" .cancelled]⟩) := by
  decide +kernel

/-! ## A crowded pod -/

/-- Two containers at a time, twenty-five milliseconds for a check, and checks with ends of every kind. -/
def crowdedSetup : Setup where
  checker := Script.checker
    ⟨[("api", [{ delay := 30, answer := .given .pending }]),
      ("db", [{ delay := 10, answer := .given (.failed (.other "registry down" [])) }]),
      ("job", [{ answer := .given (.failed (.noVersionFound "job:1")) }]),
      ("web", [{ answer := .never }]),
      ("hook", [{ delay := 20, cancelsLast := true, answer := .made }])]⟩
  store := .empty
  resolver _ := .ofTables [("old", false)]
    [("old", [.invalidPin "pin-major/old" "x"]), ("bad", [.invalidPin "pin-major/bad" "y"])] []
  limits := ⟨true, some (.ofMillis 25), 2⟩

/-- A pod whose containers end in another order than they stand in. -/
def crowdedTask : Task where
  pod :=
    { name := some "web-0"
      containers := ["api", "db", "old", "bad", "job", "web", "hook"].map (⟨·, none⟩) }

/-- The failures of the crowded pod stand in the order of its containers, though the checks end in another
one. -/
theorem result?_report_crowded :
    0 < crowdedSetup.limits.concurrency ∧ (crowdedSetup.report (fun _ => 0) crowdedTask).StartedChecksEnd ∧
    (crowdedSetup.report (fun _ => 0) crowdedTask).result? = some (.error ⟨⟨"default", "web-0"⟩,
      [.check "api" (.deadlineExceeded (.ofMillis 25)), .check "db" (.other "registry down" []),
        .configuration "bad" [.invalidPin "pin-major/bad" "y"], .check "web" .cancelled]⟩) := by
  have hn : 0 < crowdedSetup.limits.concurrency := by decide
  have hends : (crowdedSetup.report (fun _ => 0) crowdedTask).StartedChecksEnd :=
    Context.startedChecksEnd hn (.inl (Option.some_ne_none _))
  have hfailures : (crowdedSetup.context crowdedTask.pod).failuresGiven crowdedTask.pod.containers
      (crowdedSetup.report (fun _ => 0) crowdedTask).trace =
      [.check "api" (.deadlineExceeded (.ofMillis 25)), .check "db" (.other "registry down" []),
        .configuration "bad" [.invalidPin "pin-major/bad" "y"], .check "web" .cancelled] := by
    decide +kernel
  obtain ⟨-, -, hresult⟩ := result?_report hn hends
  rw [hfailures] at hresult
  exact ⟨hn, hends, hresult⟩

end Freshness.Sync
