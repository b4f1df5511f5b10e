import Freshness.Proofs.Sync.Conservation

/-!
# Failures that trying again does not change

A container fails for its annotations whatever the checker does, whenever the work is cancelled and whatever is in
the store: which containers do, and with which issues, follows from the annotations of the pod, the compiler of
patterns and the default alone (`misconfigured`).  So the failures for annotations are the same in all work on a
pod that comes to its end (`configurationFailures_of_result?`).  A failure of a pod asks for no further try
exactly if it is made of these failures only, and then they are in the result of every further try
(`configurationFailures_sync`).
-/

namespace Freshness.Sync

/-- The failures for annotations in what the work on a pod returns. -/
def configurationFailures (result : Except PodFailure Unit) : List ContainerFailure :=
  (failuresIn result).filter isConfiguration

/-- The failures for annotations that the annotations of a pod amount to: those of the containers that are to be
checked and whose options cannot be resolved, in the order of the containers. -/
def misconfigured (compiler : Pattern.Compiler) (a : Annotations) (byDefault : Bool)
    (containers : List Container) : List ContainerFailure :=
  containers.filterMap fun c =>
    match Options.isEnabled a c.name byDefault, Options.resolve compiler a c.name with
    | true, .error issues => some (.configuration c.name issues)
    | _, _ => none

/-! ## Failures of one kind -/

/-- A further try is asked for by the failures that are not for annotations. -/
lemma isRetryable_eq_not_isConfiguration (f : ContainerFailure) : f.isRetryable = !isConfiguration f := by
  cases f <;> rfl

/-- A failed pod asks for no further try exactly if all its failures are for annotations. -/
lemma isRetryable_eq_false_iff (f : PodFailure) :
    f.isRetryable = false ↔ ∀ g ∈ f.failures, isConfiguration g = true := by
  simp only [PodFailure.isRetryable, isRetryable_eq_not_isConfiguration, List.any_eq_false, Bool.not_eq_true',
    Bool.not_eq_false]

/-- A failed pod that asks for no further try has no other failures than those for annotations. -/
lemma configurationFailures_eq_of_isRetryable_eq_false {f : PodFailure} (h : f.isRetryable = false) :
    configurationFailures (.error f) = f.failures :=
  List.filter_eq_self.2 ((isRetryable_eq_false_iff f).1 h)

/-! ## The failures of one run -/

namespace Context

variable {ctx : Context} {c : Container} {earlier : String → Nat}

/-- The failure for annotations that a container amounts to. -/
def misconfigured? (ctx : Context) (c : Container) : Option ContainerFailure :=
  match ctx.resolver.isEnabled ctx.limits.checkByDefault c.name, ctx.resolver.options c.name with
  | true, .error issues => some (.configuration c.name issues)
  | _, _ => none

/-- A container that has ended has failed for its annotations if it amounts to such a failure, however its check
ended. -/
lemma Account.filter_failure? {es : List Event} {time : Nat} {e : Ending} (h : ctx.Account c es (.ended time e)) :
    e.failure?.filter isConfiguration = ctx.misconfigured? c := by
  unfold misconfigured?
  cases h with
  | disabled henabled =>
    rw [henabled]
    rfl
  | misconfigured henabled hoptions =>
    rw [henabled, hoptions]
    rfl
  | @checked _ _ pre a henabled hoptions hpre =>
    rw [henabled, hoptions]
    cases a with
    | pending => rfl
    | found v => rfl
    | failed f => cases f <;> rfl

/-- If every container has come to its ending, the failures for annotations are those that the containers amount
to. -/
lemma filter_failuresOf {containers : List Container} {trace : List Moment} {endings : List Ending}
    (hlength : endings.length = containers.length)
    (h : ∀ i c e, containers[i]? = some c → endings[i]? = some e → ctx.Concluded earlier trace i c e) :
    (Report.failuresOf endings).filter isConfiguration = containers.filterMap ctx.misconfigured? := by
  rw [Report.failuresOf, List.filter_filterMap]
  refine filterMap_eq_filterMap hlength fun i e c he hc => ?_
  obtain ⟨begun, time, hstory⟩ := h i c e hc he
  exact hstory.account.filter_failure?

end Context

namespace Session

variable {compiler : Pattern.Compiler} {setup setup' : Setup} {s s' : Session} {t t' : Task}
  {r r' : Except PodFailure Unit}

/-- A pod does not fail without a failure of a container. -/
lemma failures_ne_nil_of_result? {f : PodFailure} (h : (s.sync setup t).2.result? = some (.error f)) :
    f.failures ≠ [] := by
  obtain ⟨es, -, hfailures, hok⟩ := exists_endings_of_result?_sync (j := ⟨setup, t⟩) h
  have hne : Report.failuresOf es ≠ [] := by
    intro hnil
    rw [hnil] at hok
    cases hok
  exact fun hnil => hne (hfailures.symm.trans hnil)

/-- The failures for annotations in what work on a pod returns are those that its annotations amount to. -/
theorem configurationFailures_of_result? (hresolver : setup.resolver = Resolver.ofAnnotations compiler)
    (h : (s.sync setup t).2.result? = some r) :
    configurationFailures r =
      misconfigured compiler t.pod.annotations setup.limits.checkByDefault t.pod.containers := by
  obtain ⟨es, hes, hfailures, -⟩ := exists_endings_of_result?_sync (j := ⟨setup, t⟩) h
  obtain ⟨hlength, hconcluded⟩ := Context.concluded_of_endings_eq_some hes
  have hcontext : t.pod.containers.filterMap (setup.context t.pod).misconfigured? =
      misconfigured compiler t.pod.annotations setup.limits.checkByDefault t.pod.containers := by
    unfold Context.misconfigured? Setup.context
    rw [hresolver]
    rfl
  rw [configurationFailures, hfailures, Context.filter_failuresOf hlength hconcluded, hcontext]

/-- **No further try helps.**  All work on a pod that comes to its end has the same failures for annotations, in the
same order, namely those that its annotations amount to, whatever the checker, the deadline, the concurrency, the
cancellation and what was done before.  A failure of the pod asks for no further try exactly if all of its failures
are for annotations, and then any other work on the pod fails with these among its failures. -/
theorem configurationFailures_sync (hpod : t'.pod = t.pod)
    (hdefault : setup'.limits.checkByDefault = setup.limits.checkByDefault)
    (hresolver : setup.resolver = Resolver.ofAnnotations compiler)
    (hresolver' : setup'.resolver = Resolver.ofAnnotations compiler)
    (hr : (s.sync setup t).2.result? = some r) (hr' : (s'.sync setup' t').2.result? = some r') :
    configurationFailures r = misconfigured compiler t.pod.annotations setup.limits.checkByDefault t.pod.containers ∧
    configurationFailures r' = configurationFailures r ∧
    ∀ f, r = .error f →
      (f.isRetryable = false ↔ ∀ g ∈ f.failures, isConfiguration g = true) ∧
      (f.isRetryable = false → ∃ f', r' = .error f' ∧ f.failures.Sublist f'.failures) := by
  have hfailures := configurationFailures_of_result? hresolver hr
  have hsame : configurationFailures r' = configurationFailures r := by
    rw [configurationFailures_of_result? hresolver' hr', hpod, hdefault, hfailures]
  refine ⟨hfailures, hsame, ?_⟩
  rintro f rfl
  refine ⟨isRetryable_eq_false_iff f, fun hfinal => ?_⟩
  rw [configurationFailures_eq_of_isRetryable_eq_false hfinal] at hsame
  cases r' with
  | ok _ => exact absurd hsame.symm (failures_ne_nil_of_result? hr)
  | error f' => exact ⟨f', rfl, hsame ▸ List.filter_sublist⟩

/-! ## The crowded pod, with annotations -/

/-- The work on the crowded pod where its annotations turn off one container and ask another one for pins that make
no sense.  It is cancelled from outside. -/
def annotatedTask (cancellation : Option Cancellation) : Task where
  pod :=
    { crowdedTask.pod with
      annotations := ⟨[(Setting.enable.key "old", "false"), (Setting.pinMajor.key "bad", "y"),
        (Setting.pinPatch.key "bad", "3")]⟩ }
  cancellation := cancellation

/-- The setup for the crowded pod, but with its annotations read. -/
def annotatedSetup : Setup := { crowdedSetup with resolver := .ofAnnotations Pattern.compiler }

/-- A setup whose checks all end at once and without a failure. -/
def idleSetup : Setup where
  checker := ⟨fun _ _ _ => {}⟩
  store := .empty
  resolver := .ofAnnotations Pattern.compiler
  limits := ⟨true, none, 1⟩

/-- Where nothing but the annotations of the crowded pod fails no further try is asked for.  The one that is made all
the same, with a failing check and a cancellation, fails for the annotations as well. -/
theorem configurationFailures_sync_annotated :
    let first := (start idleSetup).sync idleSetup (annotatedTask none)
    let second := first.1.sync annotatedSetup (annotatedTask (some (.after 12)))
    let bad := ContainerFailure.configuration "bad" [.invalidPin (Setting.pinMajor.key "bad") "y",
      .missingDependency (Setting.pinPatch.key "bad") (Setting.pinMinor.key "bad")]
    let f : PodFailure := ⟨⟨"default", "web-0"⟩, [bad]⟩
    let f' : PodFailure := ⟨⟨"default", "web-0"⟩, [.check "api" .cancelled,
      .check "db" (.other "registry down" []), bad, .check "job" .cancelled, .check "web" .cancelled,
      .check "hook" .cancelled]⟩
    (annotatedTask (some (.after 12))).pod = (annotatedTask none).pod ∧
    annotatedSetup.limits.checkByDefault = idleSetup.limits.checkByDefault ∧
    idleSetup.resolver = Resolver.ofAnnotations Pattern.compiler ∧
    annotatedSetup.resolver = Resolver.ofAnnotations Pattern.compiler ∧
    first.2.result? = some (.error f) ∧ second.2.result? = some (.error f') ∧
    configurationFailures (.error f') = configurationFailures (.error f) ∧
    f.isRetryable = false ∧ f.failures.Sublist f'.failures := by
  intro first second bad f f'
  have hpod : (annotatedTask (some (.after 12))).pod = (annotatedTask none).pod := rfl
  have hdefault : annotatedSetup.limits.checkByDefault = idleSetup.limits.checkByDefault := rfl
  have hresolver : idleSetup.resolver = Resolver.ofAnnotations Pattern.compiler := rfl
  have hresolver' : annotatedSetup.resolver = Resolver.ofAnnotations Pattern.compiler := rfl
  have hfirst : first.2.result? = some (.error f) := by decide +kernel
  have hsecond : second.2.result? = some (.error f') := by decide +kernel
  obtain ⟨-, hsame, hfailed⟩ :=
    configurationFailures_sync hpod hdefault hresolver hresolver' hfirst hsecond
  obtain ⟨hretry, hfurther⟩ := hfailed f rfl
  have hfinal : f.isRetryable = false := hretry.2 (List.forall_mem_singleton.2 rfl)
  obtain ⟨g, hg, hsublist⟩ := hfurther hfinal
  rw [← Except.error.inj hg] at hsublist
  exact ⟨hpod, hdefault, hresolver, hresolver', hfirst, hsecond, hsame, hfinal, hsublist⟩

end Session

end Freshness.Sync
