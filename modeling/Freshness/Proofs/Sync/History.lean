import Freshness.Proofs.Sync.Completion

/-!
# The store over the work on many pods

A history is made of all completions of the work on pods, one pod after the other, each pod with settings
of its own.  At every point of it, in the middle of a pod too, a place in the store holds what the last
completion there left that settles the matter, a verdict or a container that is not to be checked
(`get?_storeDuring`).  All other endings leave the store as it is.
-/

namespace Freshness.Sync

/-- The last ending at a place that settles what the store holds there. -/
def lastSettled? (k : Store.Key) (log : List Completion) : Option Ending :=
  (log.filter fun p => p.key == k && p.ending.settles).getLast?.map (·.ending)

/-! ## The last ending that settles a place -/

/-- The last of two lots of completions is in the second lot if there is one there. -/
lemma lastSettled?_append (k : Store.Key) (l m : List Completion) :
    lastSettled? k (l ++ m) = (lastSettled? k m).or (lastSettled? k l) := by
  simp [lastSettled?, List.getLast?_append, Option.map_or]

/-- One completion is the last one at its own place if it settles it. -/
lemma lastSettled?_singleton (k : Store.Key) (p : Completion) :
    lastSettled? k [p] = if p.key = k ∧ p.ending.settles = true then some p.ending else none := by
  by_cases hk : p.key = k <;> by_cases hs : p.ending.settles = true <;> simp [lastSettled?, hk, hs]

/-- What settles a place last does settle it. -/
lemma settles_of_lastSettled? {k : Store.Key} {log : List Completion} {e : Ending}
    (h : lastSettled? k log = some e) : e.settles = true := by
  obtain ⟨p, hp, rfl⟩ := Option.map_eq_some_iff.1 h
  have hmem := List.mem_filter.1 (List.mem_of_getLast? hp)
  exact (Bool.and_eq_true_iff.1 hmem.2).2

/-- No completion at a place settles it. -/
lemma lastSettled?_eq_none {k : Store.Key} {log : List Completion}
    (h : ∀ p ∈ log, p.key = k → p.ending.settles = false) : lastSettled? k log = none := by
  have hnil : (log.filter fun p => p.key == k && p.ending.settles) = [] := by
    refine List.filter_eq_nil_iff.2 fun p hp hplace => ?_
    obtain ⟨hkey, hsettles⟩ := Bool.and_eq_true_iff.1 hplace
    rw [h p hp (beq_iff_eq.1 hkey)] at hsettles
    cases hsettles
  unfold lastSettled?
  rw [hnil]
  rfl

/-- If all completions at a place are alike and settle it, then so does the last one. -/
lemma lastSettled?_eq_some {k : Store.Key} {log : List Completion} {e : Ending} (hsettles : e.settles = true)
    (hmem : (⟨k, e⟩ : Completion) ∈ log) (hall : ∀ p ∈ log, p.key = k → p.ending = e) :
    lastSettled? k log = some e := by
  have hfound : (⟨k, e⟩ : Completion) ∈ log.filter fun p => p.key == k && p.ending.settles := by
    refine List.mem_filter.2 ⟨hmem, ?_⟩
    rw [beq_self_eq_true, hsettles]
    rfl
  obtain ⟨p, hp⟩ : ∃ p, (log.filter fun p => p.key == k && p.ending.settles).getLast? = some p :=
    ⟨_, List.getLast?_eq_some_getLast (List.ne_nil_of_mem hfound)⟩
  obtain ⟨hlog, hplace⟩ := List.mem_filter.1 (List.mem_of_getLast? hp)
  have hkey : p.key = k := beq_iff_eq.1 (Bool.and_eq_true_iff.1 hplace).1
  unfold lastSettled?
  rw [hp, Option.map_some, hall p hlog hkey]

/-- A completion that does not settle its place calls for no change. -/
lemma Completion.change?_eq_none {p : Completion} (h : p.ending.settles = false) : p.change? = none := by
  obtain ⟨k, e⟩ := p
  cases e with
  | recorded v => cases h
  | disabled => cases h
  | pending => rfl
  | noVersionFound f => rfl
  | failed f => rfl

/-- A completion that settles its place calls for a change there. -/
lemma Completion.exists_change?_eq_some {p : Completion} (h : p.ending.settles = true) :
    ∃ change, p.change? = some change ∧ change.key = p.key := by
  obtain ⟨k, e⟩ := p
  cases e with
  | recorded v => exact ⟨_, rfl, rfl⟩
  | disabled => exact ⟨_, rfl, rfl⟩
  | pending => cases h
  | noVersionFound f => cases h
  | failed f => cases f <;> cases h

/-- The last change at a place is the one that the last ending calls for that settles it. -/
lemma lastAt_filterMap_change? (k : Store.Key) (log : List Completion) :
    Store.lastAt k (log.filterMap (·.change?)) =
      (lastSettled? k log).bind fun e => Completion.change? ⟨k, e⟩ := by
  induction log using List.reverseRecOn with
  | nil => rfl
  | append_singleton l p ih =>
    rw [List.filterMap_append, Store.lastAt_append, lastSettled?_append, ih, lastSettled?_singleton]
    cases hs : p.ending.settles with
    | false =>
      have hnone : [p].filterMap (·.change?) = [] :=
        List.filterMap_cons_none (Completion.change?_eq_none hs)
      rw [hnone, Store.lastAt_nil, if_neg fun h => Bool.false_ne_true h.2, Option.none_or,
        Option.none_or]
    | true =>
      obtain ⟨change, hchange, hkey⟩ := Completion.exists_change?_eq_some hs
      have hone : [p].filterMap (·.change?) = [change] := List.filterMap_cons_some hchange
      rw [hone, Store.lastAt_singleton, hkey]
      by_cases hk : p.key = k
      · subst hk
        rw [if_pos rfl, if_pos ⟨rfl, rfl⟩, Option.some_or, Option.some_or]
        exact hchange.symm
      · rw [if_neg hk, if_neg fun h => hk h.1, Option.none_or, Option.none_or]

/-- After the changes that completions call for, a place holds what the last of them left that settles
it, or else what it held before. -/
theorem get?_applyAll_filterMap_change? (s : Store) (log : List Completion) (k : Store.Key) :
    (s.applyAll (log.filterMap (·.change?))).get? k =
      match lastSettled? k log with
      | some (.recorded v) => some ⟨k, v⟩
      | some _ => none
      | none => s.get? k := by
  rw [Store.get?_applyAll, lastAt_filterMap_change?]
  cases hlast : lastSettled? k log with
  | none => rfl
  | some e =>
    have hs := settles_of_lastSettled? hlast
    cases e with
    | recorded v => rfl
    | disabled => rfl
    | pending => cases hs
    | noVersionFound f => cases hs
    | failed f => cases f <;> cases hs

/-! ## The last ending of one pod -/

namespace Context

variable {ctx : Context} {earlier : String → Nat} {containers : List Container} {trace : List Moment}
  {es : List Ending} {i : Nat} {c : Container} {e : Ending}

/-- A completion in a trace in which all containers have come to their endings is the one of a container
at a position. -/
lemma exists_of_completion?_eq_some {m : Moment} {p : Completion}
    (hconcluded : ∀ i c e, containers[i]? = some c → es[i]? = some e → ctx.Concluded earlier trace i c e)
    (hlength : es.length = containers.length) (hm : m ∈ trace)
    (hp : ctx.completion? containers m = some p) :
    ∃ j d, m.position = some j ∧ containers[j]? = some d ∧ es[j]? = some p.ending ∧ p.key = ctx.key d := by
  obtain ⟨j, hj, hrest⟩ := Option.bind_eq_some_iff.1 hp
  obtain ⟨d, hd, hcompletion⟩ := Option.bind_eq_some_iff.1 hrest
  obtain ⟨e, -, rfl⟩ := Option.map_eq_some_iff.1 hcompletion
  obtain ⟨e', hes⟩ := exists_ending_of_length hlength hd
  have hat : m ∈ momentsAt trace j := List.mem_filter.2 ⟨hm, by simp [hj]⟩
  have hmem : (⟨ctx.key d, e⟩ : Completion) ∈ ctx.completions containers (momentsAt trace j) :=
    List.mem_filterMap.2 ⟨m, hat, hp⟩
  rw [(hconcluded j d _ hd hes).completions_momentsAt hd, List.mem_singleton] at hmem
  exact ⟨j, d, hj, hd, hes.trans (congrArg (some ·.ending) hmem.symm), rfl⟩

/-- Of the containers of one name, the only one whose ending settles their place settles it last. -/
lemma lastSettled?_completions
    (hconcluded : ∀ i c e, containers[i]? = some c → es[i]? = some e → ctx.Concluded earlier trace i c e)
    (hlength : es.length = containers.length) (hc : containers[i]? = some c) (he : es[i]? = some e)
    (hsettles : e.settles = true)
    (honly : ∀ j d e', containers[j]? = some d → es[j]? = some e' → d.name = c.name →
      e'.settles = true → j = i) :
    lastSettled? (ctx.key c) (ctx.completions containers trace) = some e := by
  have hself := (hconcluded i c e hc he).completions_momentsAt hc
  have hfilter : (ctx.completions containers trace).filter
      (fun p => p.key == ctx.key c && p.ending.settles) =
      (ctx.completions containers (momentsAt trace i)).filter
        fun p => p.key == ctx.key c && p.ending.settles := by
    unfold completions momentsAt
    rw [List.filter_filterMap, List.filter_filterMap, List.filterMap_filter]
    refine List.filterMap_congr fun m hm => ?_
    by_cases hi : (m.position == some i) = true
    · rw [if_pos hi]
    · rw [if_neg hi, Option.filter_eq_none_iff]
      intro p hp hsettled
      obtain ⟨j, d, hj, hd, hej, hkey⟩ := exists_of_completion?_eq_some hconcluded hlength hm hp
      obtain ⟨hplace, hs⟩ := Bool.and_eq_true_iff.1 hsettled
      have hname : d.name = c.name :=
        congrArg Store.Key.container (hkey.symm.trans (beq_iff_eq.1 hplace))
      rw [hj, honly j d _ hd hej hname hs] at hi
      exact hi (beq_self_eq_true _)
  unfold lastSettled?
  rw [hfilter, hself]
  simp [hsettles]

/-- If containers have names of their own, then a place is settled by the ending of its container alone. -/
lemma lastSettled?_completions_of_nodup (hnames : (containers.map (·.name)).Nodup)
    (hconcluded : ∀ i c e, containers[i]? = some c → es[i]? = some e → ctx.Concluded earlier trace i c e)
    (hlength : es.length = containers.length) (hc : containers[i]? = some c) (he : es[i]? = some e) :
    lastSettled? (ctx.key c) (ctx.completions containers trace) = if e.settles then some e else none := by
  cases hsettles : e.settles with
  | true =>
    rw [if_pos rfl]
    refine lastSettled?_completions hconcluded hlength hc he hsettles ?_
    exact fun j d e' hd _ hname _ => position_eq_of_name_eq hnames hc hd hname
  | false =>
    rw [if_neg Bool.false_ne_true]
    refine lastSettled?_eq_none fun p hp hkey => ?_
    obtain ⟨m, hm, hcompletion⟩ := List.mem_filterMap.1 hp
    obtain ⟨j, d, -, hd, hej, hplace⟩ := exists_of_completion?_eq_some hconcluded hlength hm hcompletion
    have hname : d.name = c.name := congrArg Store.Key.container (hplace.symm.trans hkey)
    obtain rfl : j = i := position_eq_of_name_eq hnames hc hd hname
    obtain rfl : e = p.ending := Option.some.inj (he.symm.trans hej)
    exact hsettles

end Context

/-! ## Jobs -/

/-- A pod to work on, and the setup for the work on it. -/
structure Job where
  setup : Setup
  task : Task

namespace Job

/-- What the turns of the containers of a job depend on. -/
def context (j : Job) : Context := j.setup.context j.task.pod

/-- The completions in a trace of the work on a job. -/
def completions (j : Job) (trace : List Moment) : List Completion :=
  j.context.completions j.task.pod.containers trace

end Job

namespace Session

/-- The session before any work, with a store without entries. -/
def empty : Session := ⟨.empty, []⟩

/-- The session after several jobs, one after the other. -/
def after (s : Session) : List Job → Session
  | [] => s
  | j :: rest => (s.sync j.setup j.task).1.after rest

/-- The report on the next job of a session. -/
def report (s : Session) (j : Job) : Report := j.setup.report (fun name => s.called.count name) j.task

/-- The course of the next job of a session after a number of steps. -/
def course (s : Session) (j : Job) (n : Nat) : State :=
  j.context.steps (fun name => s.called.count name) n j.task.start

/-- The store after a number of steps of the next job of a session. -/
def storeDuring (s : Session) (j : Job) (n : Nat) : Store :=
  s.store.applyAll (changesIn (s.course j n).trace)

/-- The completions in a number of steps of the next job of a session. -/
def completionsDuring (s : Session) (j : Job) (n : Nat) : List Completion :=
  j.completions (s.course j n).trace

/-- The completions of several jobs, one after the other. -/
def history (s : Session) : List Job → List Completion
  | [] => []
  | j :: rest => j.completions (s.report j).trace ++ (s.sync j.setup j.task).1.history rest

/-- A job leaves the store with the changes in its report. -/
lemma store_sync (s : Session) (j : Job) :
    (s.sync j.setup j.task).1.store = s.store.applyAll (changesIn (s.report j).trace) :=
  throughStore_fst s.store (s.report j).trace

/-- The changes in a report are those that its completions call for. -/
lemma changesIn_report (s : Session) (j : Job) :
    changesIn (s.report j).trace = (j.completions (s.report j).trace).filterMap (·.change?) :=
  Context.changesIn_eq_completions j.setup _ j.task

/-- After several jobs the store has the changes that their completions call for. -/
theorem store_after (s : Session) (jobs : List Job) :
    (s.after jobs).store = s.store.applyAll ((s.history jobs).filterMap (·.change?)) := by
  induction jobs generalizing s with
  | nil => rfl
  | cons j rest ih =>
    unfold after history
    rw [ih, store_sync, changesIn_report, List.filterMap_append, Store.applyAll_append]

/-- In the course of a job the store has the changes that the completions so far call for. -/
theorem storeDuring_eq (s : Session) (j : Job) (n : Nat) :
    s.storeDuring j n = s.store.applyAll ((s.completionsDuring j n).filterMap (·.change?)) :=
  congrArg s.store.applyAll (Context.changesIn_steps _ j.task n)

/-- One more job comes after all others. -/
lemma after_concat (s : Session) (jobs : List Job) (j : Job) :
    s.after (jobs ++ [j]) = ((s.after jobs).sync j.setup j.task).1 := by
  induction jobs generalizing s with
  | nil => rfl
  | cons j' rest ih => exact ih (s.sync j'.setup j'.task).1

/-- A job is done when its course has come to its end. -/
lemma store_sync_eq_storeDuring (s : Session) (j : Job) :
    (s.sync j.setup j.task).1.store = s.storeDuring j j.task.start.measure := by
  rw [store_sync]
  exact congrArg s.store.applyAll (Context.changesIn_report _ _)

/-- One more step leaves the store as it is unless it brings a completion that settles its place. -/
lemma exists_completionsDuring_succ (s : Session) (j : Job) (n : Nat) :
    ∃ new, s.completionsDuring j (n + 1) = s.completionsDuring j n ++ new ∧
      ((∀ p ∈ new, p.ending.settles = false) → s.storeDuring j (n + 1) = s.storeDuring j n) := by
  obtain ⟨new, hnew, hchanges⟩ := j.context.exists_completions_step (fun name => s.called.count name)
    j.task n
  refine ⟨new, hnew, fun hnone => ?_⟩
  have hnil : new.filterMap (·.change?) = [] :=
    List.filterMap_eq_nil_iff.2 fun p hp => Completion.change?_eq_none (hnone p hp)
  rw [hnil, List.append_nil] at hchanges
  exact congrArg s.store.applyAll hchanges

/-- A job leaves alone the places of all other pods and of containers that its pod does not have. -/
lemma get?_storeDuring_of_ne (s : Session) (j : Job) (n : Nat) {k : Store.Key}
    (hk : ∀ c ∈ j.task.pod.containers, k ≠ j.context.key c) :
    (s.storeDuring j n).get? k = s.store.get? k := by
  have hnone : lastSettled? k (s.completionsDuring j n) = none := by
    refine lastSettled?_eq_none fun p hp hpk => ?_
    obtain ⟨c, hc, hkey⟩ := Context.exists_of_mem_completions hp
    exact absurd (hpk.symm.trans hkey) (hk c hc)
  rw [storeDuring_eq, get?_applyAll_filterMap_change?, hnone]

/-- A job that is done has left at the place of a container the verdict that it recorded, if no other
container of that name came to an ending that settles the place, whatever else came of the pod. -/
lemma get?_sync_of_recorded (s : Session) (j : Job) {es : List Ending} {i : Nat} {c : Container}
    {v : Verdict} (hes : (s.report j).endings = some es) (hc : j.task.pod.containers[i]? = some c)
    (he : es[i]? = some (.recorded v))
    (honly : ∀ i' d e', j.task.pod.containers[i']? = some d → es[i']? = some e' → d.name = c.name →
      e'.settles = true → i' = i) :
    (s.sync j.setup j.task).1.store.get? (j.context.key c) = some ⟨j.context.key c, v⟩ := by
  obtain ⟨hlength, hconcluded⟩ := Context.concluded_of_endings_eq_some hes
  have hlast : lastSettled? (j.context.key c) (j.completions (s.report j).trace) = some (.recorded v) :=
    Context.lastSettled?_completions hconcluded hlength hc he rfl honly
  rw [store_sync, changesIn_report, get?_applyAll_filterMap_change?, hlast]

/-- After any jobs, each on a pod of its own with settings of its own, and any number of steps of one more:
a place holds what the last ending left there that settles it; a step that brings no such ending leaves
the whole store as it is; the places of other pods and other containers hold what they held before the
job; and the size of the store is the number of places that hold an entry.  Once the job is done each of
its containers has left its own ending, so that a recorded verdict is kept also if the pod fails. -/
theorem get?_storeDuring (jobs : List Job) (j : Job) (n : Nat) :
    let s := empty.after jobs
    let store := s.storeDuring j n
    let pod : PodId := ⟨j.task.pod.namespaceName.getD "default", j.task.pod.name.getD ""⟩
    (∀ k, store.get? k =
      match lastSettled? k (empty.history jobs ++ s.completionsDuring j n) with
      | some (.recorded v) => some ⟨k, v⟩
      | _ => none) ∧
    (∃ new, s.completionsDuring j (n + 1) = s.completionsDuring j n ++ new ∧
      ((∀ p ∈ new, p.ending.settles = false) → s.storeDuring j (n + 1) = store)) ∧
    (∀ k, (∀ c ∈ j.task.pod.containers, k ≠ ⟨pod, c.name⟩) → store.get? k = s.store.get? k) ∧
    {k | (store.get? k).isSome}.encard = store.size ∧
    (empty.after (jobs ++ [j])).store = s.storeDuring j j.task.start.measure ∧
    ∀ es, (s.report j).endings = some es →
      ∀ i c e, j.task.pod.containers[i]? = some c → es[i]? = some e →
        j.completions (momentsAt (s.report j).trace i) = [⟨⟨pod, c.name⟩, e⟩] ∧
        ∀ v, e = .recorded v →
          (∀ i' c' e', j.task.pod.containers[i']? = some c' → es[i']? = some e' → c'.name = c.name →
            e'.settles = true → i' = i) →
          (empty.after (jobs ++ [j])).store.get? ⟨pod, c.name⟩ = some ⟨⟨pod, c.name⟩, v⟩ := by
  intro s store pod
  have hstore : store = Store.ofChanges
      ((empty.history jobs ++ s.completionsDuring j n).filterMap (·.change?)) := by
    have hbefore : s.store = Store.empty.applyAll ((empty.history jobs).filterMap (·.change?)) :=
      store_after empty jobs
    have hduring : store = s.store.applyAll ((s.completionsDuring j n).filterMap (·.change?)) :=
      storeDuring_eq s j n
    rw [hduring, hbefore, ← Store.applyAll_append, ← List.filterMap_append]
    rfl
  refine ⟨fun k => ?_, exists_completionsDuring_succ s j n, fun k hk => get?_storeDuring_of_ne s j n hk,
    ?_, ?_, fun es hes i c e hc he => ⟨?_, ?_⟩⟩
  · rw [hstore]
    have hplace := get?_applyAll_filterMap_change? Store.empty
      (empty.history jobs ++ s.completionsDuring j n) k
    refine hplace.trans ?_
    cases lastSettled? k (empty.history jobs ++ s.completionsDuring j n) with
    | none => rfl
    | some e => cases e <;> rfl
  · rw [hstore]
    exact (Store.keysDistinct_ofChanges _).encard_eq_size
  · rw [after_concat, store_sync_eq_storeDuring]
  · obtain ⟨-, hconcluded⟩ := Context.concluded_of_endings_eq_some hes
    exact (hconcluded i c e hc he).completions_momentsAt hc
  · rintro v rfl honly
    rw [after_concat]
    exact get?_sync_of_recorded s j hes hc he honly

-- A container that was found outdated leaves no entry once it is disabled.
example :
    let verdict : Verdict := ⟨"repo/app", "1.0", "1.1", false, "linux", "amd64"⟩
    let job (enabled : Bool) : Job :=
      { setup :=
          { checker := ⟨fun _ _ _ => { answer := some (.found verdict) }⟩
            store := .empty
            resolver := fun _ => .ofTables [("app", enabled)] [] []
            limits := ⟨true, none, 1⟩ }
        task := { pod := { name := some "web-0", containers := [⟨"app", none⟩] } } }
    (empty.after [job true]).store.get? ⟨⟨"default", "web-0"⟩, "app"⟩ =
        some ⟨⟨⟨"default", "web-0"⟩, "app"⟩, verdict⟩ ∧
      (empty.after [job true, job false]).store.get? ⟨⟨"default", "web-0"⟩, "app"⟩ = none := by
  decide +kernel

end Session

end Freshness.Sync
