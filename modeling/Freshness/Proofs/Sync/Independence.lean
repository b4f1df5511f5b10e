import Freshness.Proofs.Sync.Aggregate
import Freshness.Proofs.Sync.Alone
import Freshness.Proofs.Sync.History
import Freshness.Proofs.Sync.Notices
import Freshness.Proofs.Sync.Outcomes

/-!
# Independence of the concurrency

How many containers of a pod are worked on at a time changes when their checks are called and in which order
they end, and with it the order in which the store hears of them.  It does not change what comes of the pod:
`sync_withConcurrency` shows that each container comes to the ending to which it comes by itself, and that the
result, the counts and the entries of the store follow from these endings alone (`Yields`).  So all of them
are those of the work on one container after the other.
-/

namespace Freshness.Sync

/-- The setup with another number of containers that are worked on at a time. -/
def Setup.withConcurrency (setup : Setup) (n : Nat) : Setup :=
  { setup with limits := { setup.limits with concurrency := n } }

/-- The entry at a place once its container has come to an ending, from the entry that was there before. -/
def Ending.entryAfter (k : Store.Key) (previous : Option Store.Entry) : Ending → Option Store.Entry
  | .recorded v => some ⟨k, v⟩
  | .disabled => none
  | _ => previous

namespace Session

/-- What comes of the work on a pod if it comes to given endings: they are reported, the result is made of
their failures in the order of the containers, each of them is counted, and each container leaves in the store
what its own ending makes of the entry that was there before, while all other places stay as they are. -/
structure Yields (setup : Setup) (s : Session) (t : Task) (es : List Ending) : Prop where
  endings : (s.sync setup t).2.endings = some es
  result : (s.sync setup t).2.result? = some (if (Report.failuresOf es).isEmpty then .ok ()
    else .error ⟨⟨t.pod.namespaceName.getD "default", t.pod.name.getD ""⟩, Report.failuresOf es⟩)
  outcome : ∀ o, (s.sync setup t).2.counters.outcome o = es.countP (·.outcome == o)
  entry : ∀ (i : Nat) (c : Container) (e : Ending), t.pod.containers[i]? = some c → es[i]? = some e →
    (s.sync setup t).1.store.get? ⟨t.pod.id, c.name⟩ =
      e.entryAfter ⟨t.pod.id, c.name⟩ (s.store.get? ⟨t.pod.id, c.name⟩)
  other : ∀ k, (∀ c ∈ t.pod.containers, k ≠ ⟨t.pod.id, c.name⟩) →
    (s.sync setup t).1.store.get? k = s.store.get? k

variable {setup setup' : Setup} {s : Session} {t : Task} {es : List Ending}

/-! ## What follows from the endings -/

/-- After the work on a pod a place holds what the last ending left that settles it, or what it held. -/
lemma get?_sync (setup : Setup) (s : Session) (t : Task) (k : Store.Key) :
    (s.sync setup t).1.store.get? k =
      match lastSettled? k ((Job.mk setup t).completions (s.report ⟨setup, t⟩).trace) with
      | some (.recorded v) => some ⟨k, v⟩
      | some _ => none
      | none => s.store.get? k := by
  have hplace := get?_applyAll_filterMap_change? s.store
    ((Job.mk setup t).completions (s.report ⟨setup, t⟩).trace) k
  rw [store_sync s ⟨setup, t⟩, changesIn_report]
  refine hplace.trans ?_
  cases lastSettled? k ((Job.mk setup t).completions (s.report ⟨setup, t⟩).trace) with
  | none => rfl
  | some e => cases e <;> rfl

/-- If the containers have names of their own, then all that comes of the work follows from their endings. -/
theorem yields_of_endings (hnames : (t.pod.containers.map (·.name)).Nodup)
    (hes : (s.report ⟨setup, t⟩).endings = some es) : Yields setup s t es := by
  obtain ⟨hlength, hconcluded⟩ := Context.concluded_of_endings_eq_some hes
  refine ⟨hes, result?_report_of_endings hes, fun o => ?_, fun i c e hc he => ?_, fun k hk => ?_⟩
  · have hcount : (s.sync setup t).2.trace.countP (·.event.counts o) =
        (s.report ⟨setup, t⟩).trace.countP (·.event.counts o) :=
      countP_throughStore (fun _ => rfl) s.store _
    rw [outcome_counters, hcount, ← outcome_counters]
    exact Context.outcome_counters_report hes o
  · have hlast : lastSettled? ⟨t.pod.id, c.name⟩
        ((Job.mk setup t).completions (s.report ⟨setup, t⟩).trace) = if e.settles then some e else none :=
      Context.lastSettled?_completions_of_nodup hnames hconcluded hlength hc he
    rw [get?_sync, hlast]
    cases e with
    | recorded v => rfl
    | pending => rfl
    | disabled => rfl
    | noVersionFound f => rfl
    | failed f => cases f <;> rfl
  · have hnone : lastSettled? k ((Job.mk setup t).completions (s.report ⟨setup, t⟩).trace) = none := by
      refine lastSettled?_eq_none fun p hp hkey => ?_
      obtain ⟨c, hc, hplace⟩ := Context.exists_of_mem_completions hp
      exact absurd (hkey.symm.trans hplace) (hk c hc)
    rw [get?_sync, hnone]

/-- Two ways of working on a pod that come to the same endings leave the same at every place. -/
lemma Yields.get?_eq (h : Yields setup s t es) (h' : Yields setup' s t es) (k : Store.Key) :
    (s.sync setup t).1.store.get? k = (s.sync setup' t).1.store.get? k := by
  by_cases hk : ∀ c ∈ t.pod.containers, k ≠ ⟨t.pod.id, c.name⟩
  · rw [h.other k hk, h'.other k hk]
  · push Not at hk
    obtain ⟨c, hmem, rfl⟩ := hk
    obtain ⟨i, hc⟩ := List.mem_iff_getElem?.1 hmem
    have hlength : es.length = t.pod.containers.length :=
      (Context.concluded_of_endings_eq_some h.endings).1
    obtain ⟨e, he⟩ := Context.exists_ending_of_length hlength hc
    rw [h.entry i c e hc he, h'.entry i c e hc he]

/-! ## The endings -/

/-- Work that is not cancelled comes to the endings to which the containers come by themselves. -/
theorem exists_yields (hn : 0 < setup.limits.concurrency)
    (hnames : (t.pod.containers.map (·.name)).Nodup)
    (hends : setup.limits.deadline ≠ none ∨ ∀ c ∈ t.pod.containers,
      (setup.resolver t.pod.annotations).isEnabled setup.limits.checkByDefault c.name = true →
        ∀ o, (setup.resolver t.pod.annotations).options c.name = .ok o →
          (setup.checker.call c o (s.called.count c.name)).answer ≠ none)
    (hquiet : cancelledIn (s.sync setup t).2.trace = false) :
    ∃ es, (t.pod.containers.map fun c => endingAlone? c
        ((setup.resolver t.pod.annotations).isEnabled setup.limits.checkByDefault c.name)
        ((setup.resolver t.pod.annotations).options c.name)
        (setup.checker.call c · (s.called.count c.name)) setup.limits.deadline) = es.map some ∧
      Yields setup s t es := by
  have hreport : cancelledIn (s.report ⟨setup, t⟩).trace = false :=
    (cancelledIn_throughStore s.store _).symm.trans hquiet
  have hfinal : (setup.final (fun name => s.called.count name) t).queue = [] ∧ _ :=
    Context.ended_final_of_answers hn hnames hends
  obtain ⟨es, hes⟩ := Context.exists_endings_of_ended hfinal.1 hfinal.2
  obtain ⟨hlength, hconcluded⟩ := Context.concluded_of_endings_eq_some hes
  refine ⟨es, List.ext_getElem (by simp [hlength]) fun i hi hi' => ?_, yields_of_endings hnames hes⟩
  rw [List.length_map] at hi hi'
  have hc : t.pod.containers[i]? = some t.pod.containers[i] := List.getElem?_eq_getElem hi
  have halone := (hconcluded i _ _ hc (List.getElem?_eq_getElem hi')).endingAlone?_eq hreport
  -- no other container has its name, so its check is called as in the earlier work, whatever came before it
  rw [Context.callsIn_before_report hnames hc, Nat.add_zero] at halone
  rw [List.getElem_map, List.getElem_map]
  exact halone

/-! ## Any two numbers of containers at a time -/

/-- If the containers of a pod have names of their own, and there is a deadline or each check replies, then
work that is not cancelled brings each container to the ending to which it comes by itself: from whether it is
to be checked, its options, how its check goes on, and the deadline.  Result, counts and the entries of
the store follow from these endings, each entry from the ending of its own container and the entry that was
there before.  So all of them are the same, however many containers are worked on at a time. -/
theorem sync_withConcurrency {n m : Nat} (hn : 0 < n) (hm : 0 < m)
    (hnames : (t.pod.containers.map (·.name)).Nodup)
    (hends : setup.limits.deadline ≠ none ∨ ∀ c ∈ t.pod.containers,
      (setup.resolver t.pod.annotations).isEnabled setup.limits.checkByDefault c.name = true →
        ∀ o, (setup.resolver t.pod.annotations).options c.name = .ok o →
          (setup.checker.call c o (s.called.count c.name)).answer ≠ none)
    (hquiet : cancelledIn (s.sync (setup.withConcurrency n) t).2.trace = false)
    (hquiet' : cancelledIn (s.sync (setup.withConcurrency m) t).2.trace = false) :
    let resolver := setup.resolver t.pod.annotations
    let alone (c : Container) := endingAlone? c (resolver.isEnabled setup.limits.checkByDefault c.name)
      (resolver.options c.name) (setup.checker.call c · (s.called.count c.name)) setup.limits.deadline
    let run (k : Nat) := s.sync (setup.withConcurrency k) t
    (∃ es, t.pod.containers.map alone = es.map some ∧
      Yields (setup.withConcurrency n) s t es ∧ Yields (setup.withConcurrency m) s t es) ∧
    (run n).2.result? = (run m).2.result? ∧
    (∀ o, (run n).2.counters.outcome o = (run m).2.counters.outcome o) ∧
    (∀ k, (run n).1.store.get? k = (run m).1.store.get? k) ∧
    (s.store.KeysDistinct → (run n).1.store.entries.Perm (run m).1.store.entries) := by
  intro resolver alone run
  have hsome : ∀ k, 0 < k → cancelledIn (run k).2.trace = false →
      ∃ es, t.pod.containers.map alone = es.map some ∧ Yields (setup.withConcurrency k) s t es := by
    intro k hk hcalm
    have hpositive : 0 < (setup.withConcurrency k).limits.concurrency := hk
    exact exists_yields hpositive hnames hends hcalm
  obtain ⟨es, halone, hyields⟩ := hsome n hn hquiet
  obtain ⟨es', halone', hyields'⟩ := hsome m hm hquiet'
  -- both ways of working come to the endings of the containers by themselves, hence to the same ones
  obtain rfl : es = es' :=
    List.map_injective_iff.2 (Option.some_injective _) (halone.symm.trans halone')
  have hget := hyields.get?_eq hyields'
  refine ⟨⟨es, halone, hyields, hyields'⟩, hyields.result.trans hyields'.result.symm,
    fun o => (hyields.outcome o).trans (hyields'.outcome o).symm, hget, fun hkeys => ?_⟩
  have hdistinct : ∀ k, (run k).1.store.KeysDistinct := by
    intro k
    rw [store_sync s ⟨setup.withConcurrency k, t⟩]
    exact hkeys.applyAll _
  exact (hdistinct n).perm_of_get?_eq (hdistinct m) hget

/-- The setup for the crowded pod, but with checks that do not cancel the work. -/
def quietSetup : Setup :=
  { crowdedSetup with
    checker := ⟨fun c o n =>
      { crowdedSetup.checker.call c o n with cancelsFirst := false, cancelsLast := false }⟩ }

/-- Three containers of the crowded pod at a time come to just what one after the other comes to, with two
checks past their deadline and a verdict in the store. -/
theorem sync_withConcurrency_crowded :
    let run (k : Nat) := (start quietSetup).sync (quietSetup.withConcurrency k) crowdedTask
    (crowdedTask.pod.containers.map (·.name)).Nodup ∧ quietSetup.limits.deadline ≠ none ∧
    cancelledIn (run 3).2.trace = false ∧ cancelledIn (run 1).2.trace = false ∧
    (start quietSetup).store.KeysDistinct ∧
    (run 3).2.endings = some [.failed (.check "api" (.deadlineExceeded (.ofMillis 25))),
      .failed (.check "db" (.other "registry down" [])), .disabled,
      .failed (.configuration "bad" [.invalidPin "pin-major/bad" "y"]),
      .noVersionFound (.noVersionFound "job:1"),
      .failed (.check "web" (.deadlineExceeded (.ofMillis 25))), .recorded (Script.madeVerdict "")] ∧
    (run 3).2.endings = (run 1).2.endings ∧ (run 3).2.result? = (run 1).2.result? ∧
    (run 3).1.store.entries.Perm (run 1).1.store.entries := by
  intro run
  have hnames : (crowdedTask.pod.containers.map (·.name)).Nodup := by decide
  have hdeadline : quietSetup.limits.deadline ≠ none := Option.some_ne_none _
  have hquiet : cancelledIn (run 3).2.trace = false := by decide +kernel
  have hquiet' : cancelledIn (run 1).2.trace = false := by decide +kernel
  have hkeys : (start quietSetup).store.KeysDistinct := Store.keysDistinct_empty
  obtain ⟨⟨es, halone, hyields, hyields'⟩, hresult, -, -, hentries⟩ :=
    sync_withConcurrency (by decide) (by decide) hnames (.inl hdeadline) hquiet hquiet'
  have hes : es = [.failed (.check "api" (.deadlineExceeded (.ofMillis 25))),
      .failed (.check "db" (.other "registry down" [])), .disabled,
      .failed (.configuration "bad" [.invalidPin "pin-major/bad" "y"]),
      .noVersionFound (.noVersionFound "job:1"),
      .failed (.check "web" (.deadlineExceeded (.ofMillis 25))), .recorded (Script.madeVerdict "")] := by
    refine List.map_injective_iff.2 (Option.some_injective _) (halone.symm.trans ?_)
    decide +kernel
  exact ⟨hnames, hdeadline, hquiet, hquiet', hkeys, hyields.endings.trans (congrArg some hes),
    hyields.endings.trans hyields'.endings.symm, hresult, hentries hkeys⟩

end Session

end Freshness.Sync
