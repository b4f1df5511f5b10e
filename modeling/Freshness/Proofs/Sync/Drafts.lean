import Freshness.Sync.Setup
import Mathlib.Data.List.Induction

/-!
# What calls set up

A setup is put together by calls in any order and number.  Each thing that calls set is the one of the last call
that gives it (`lastGiven?`).  A policy gives a default, a number of seconds for a check and a number of
containers at a time; the first and the last of these are also given by calls of their own, and whichever call
comes last counts.  A deadline of its own is no part of a policy: it stands, even if it is zero, whatever
policies come before or after it.

`Draft.ofCalls_eq` reads the draft off the calls, by induction on the last call, and `ofCalls_eq_last` the
setup.
-/

namespace Freshness.Sync

/-- What the last of those calls gives that give something of a kind. -/
def lastGiven? {α : Type} (given? : Call → Option α) (calls : List Call) : Option α :=
  (calls.filterMap given?).getLast?

namespace Call

/-! ## What a call gives -/

/-- The checker that a call gives. -/
def checker? : Call → Option Checker
  | checker c => some c
  | _ => none

/-- The store that a call gives. -/
def store? : Call → Option Store
  | store s => some s
  | _ => none

/-- The way to get a resolver that a call gives. -/
def resolver? : Call → Option (Annotations → Resolver)
  | resolver r => some r
  | _ => none

/-- The default that a call gives, by itself or with a policy. -/
def checkByDefault? : Call → Option Bool
  | policy p => some p.checkByDefault
  | checkByDefault b => some b
  | _ => none

/-- The number of containers at a time that a call gives, by itself or with a policy. -/
def maxConcurrent? : Call → Option UInt64
  | policy p => some p.maxConcurrent
  | maxConcurrent n => some n
  | _ => none

/-- The seconds for a check that a call gives with a policy, which may give none. -/
def timeoutSeconds? : Call → Option (Option UInt64)
  | policy p => some p.timeoutSeconds
  | _ => none

/-- The deadline that a call gives by itself. -/
def deadline? : Call → Option Duration
  | deadline d => some d
  | _ => none

lemma checker?_eq_some_iff {call : Call} {c : Checker} : call.checker? = some c ↔ call = .checker c := by
  cases call <;> simp [checker?]

lemma store?_eq_some_iff {call : Call} {s : Store} : call.store? = some s ↔ call = .store s := by
  cases call <;> simp [store?]

lemma deadline?_eq_some_iff {call : Call} {d : Duration} : call.deadline? = some d ↔ call = .deadline d := by
  cases call <;> simp [deadline?]

end Call

/-! ## The last call of a kind -/

variable {α : Type} {given? : Call → Option α} {calls : List Call}

/-- One more call counts if it gives something of the kind. -/
lemma lastGiven?_concat (given? : Call → Option α) (calls : List Call) (call : Call) :
    lastGiven? given? (calls ++ [call]) = (given? call).or (lastGiven? given? calls) := by
  unfold lastGiven?
  rw [List.filterMap_append]
  cases hcall : given? call with
  | none => rw [List.filterMap_cons_none hcall, List.filterMap_nil, List.append_nil, Option.none_or]
  | some v =>
    rw [List.filterMap_cons_some hcall, List.filterMap_nil, List.getLast?_concat, Option.some_or]

/-- Nothing of a kind is given exactly if no call gives it. -/
lemma lastGiven?_eq_none_iff : lastGiven? given? calls = none ↔ ∀ call ∈ calls, given? call = none := by
  rw [lastGiven?, List.getLast?_eq_none_iff, List.filterMap_eq_nil_iff]

/-- Nothing of a kind is given exactly if the calls that would give it are not among the calls. -/
lemma lastGiven?_eq_none_iff_not_mem {give : α → Call}
    (hgive : ∀ call v, given? call = some v ↔ call = give v) :
    lastGiven? given? calls = none ↔ ∀ v, give v ∉ calls := by
  rw [lastGiven?_eq_none_iff]
  constructor
  · intro h v hmem
    have hsome : given? (give v) = some v := (hgive _ _).2 rfl
    rw [h _ hmem] at hsome
    cases hsome
  · intro h call hmem
    refine Option.eq_none_iff_forall_ne_some.2 fun v hv => h v ?_
    rwa [← (hgive call v).1 hv]

/-! ## The draft -/

/-- The policy that calls give, part by part. -/
def policyGiven (calls : List Call) : Policy where
  checkByDefault := (lastGiven? Call.checkByDefault? calls).getD false
  timeoutSeconds := (lastGiven? Call.timeoutSeconds? calls).getD none
  maxConcurrent := (lastGiven? Call.maxConcurrent? calls).getD 1

/-- The deadline that calls give: that of the last call for one, else that of the last policy, where no seconds and
zero seconds mean that there is none. -/
def deadlineGiven (calls : List Call) : Option Duration :=
  match lastGiven? Call.deadline? calls, (lastGiven? Call.timeoutSeconds? calls).getD none with
  | some d, _ => some d
  | none, some n => if n = 0 then none else some (.ofSeconds n.toNat)
  | none, none => none

/-- A draft holds what the last calls of each kind give. -/
lemma Draft.ofCalls_eq (calls : List Call) :
    Draft.ofCalls calls =
      { checker := lastGiven? Call.checker? calls
        store := lastGiven? Call.store? calls
        resolver := (lastGiven? Call.resolver? calls).getD (.ofAnnotations Pattern.compiler)
        policy := policyGiven calls
        deadline := lastGiven? Call.deadline? calls } := by
  induction calls using List.reverseRecOn with
  | nil => rfl
  | append_singleton calls call ih =>
    have hstep : Draft.ofCalls (calls ++ [call]) = (Draft.ofCalls calls).apply call := by
      unfold Draft.ofCalls
      rw [List.foldl_append]
      rfl
    rw [hstep, ih]
    unfold policyGiven
    simp only [lastGiven?_concat]
    cases call <;> rfl

/-- Without a call for a deadline the deadline is that of the policy. -/
lemma deadline_policyGiven (h : lastGiven? Call.deadline? calls = none) :
    (policyGiven calls).deadline = deadlineGiven calls := by
  unfold Policy.deadline policyGiven deadlineGiven
  rw [h]
  cases hseconds : (lastGiven? Call.timeoutSeconds? calls).getD none with
  | none => rfl
  | some n =>
    by_cases hn : n = 0
    · subst hn
      rfl
    · have hpos : 0 < n := UInt64.pos_iff_ne_zero.2 hn
      simp [hn, hpos]

/-- The limits of a draft are those that the calls give. -/
lemma limits_ofCalls (calls : List Call) :
    (Draft.ofCalls calls).limits =
      { checkByDefault := (policyGiven calls).checkByDefault
        deadline := deadlineGiven calls
        concurrency := max 1 (policyGiven calls).maxConcurrent.toNat } := by
  have hdeadline : (lastGiven? Call.deadline? calls).or (policyGiven calls).deadline = deadlineGiven calls := by
    cases h : lastGiven? Call.deadline? calls with
    | none => rw [Option.none_or, deadline_policyGiven h]
    | some d =>
      unfold deadlineGiven
      rw [h, Option.some_or]
  rw [Draft.ofCalls_eq, ← hdeadline]
  rfl

/-- The setup of calls, or what is missing, follows from the last calls for a checker and for a store. -/
lemma setup_ofCalls_eq (calls : List Call) :
    Setup.ofCalls calls =
      match lastGiven? Call.checker? calls, lastGiven? Call.store? calls with
      | none, _ => .error .checker
      | some _, none => .error .store
      | some c, some s =>
        .ok ⟨c, s, (lastGiven? Call.resolver? calls).getD (.ofAnnotations Pattern.compiler),
          (Draft.ofCalls calls).limits⟩ := by
  have hchecker : (Draft.ofCalls calls).checker = lastGiven? Call.checker? calls := by rw [Draft.ofCalls_eq]
  have hstore : (Draft.ofCalls calls).store = lastGiven? Call.store? calls := by rw [Draft.ofCalls_eq]
  have hresolver : (Draft.ofCalls calls).resolver =
      (lastGiven? Call.resolver? calls).getD (.ofAnnotations Pattern.compiler) := by rw [Draft.ofCalls_eq]
  unfold Setup.ofCalls Draft.build
  cases hc : lastGiven? Call.checker? calls with
  | none => simp only [hchecker, hc]
  | some c =>
    cases hs : lastGiven? Call.store? calls with
    | none => simp only [hchecker, hc, hstore, hs]
    | some s => simp only [hchecker, hc, hstore, hs, hresolver]

/-! ## The setup -/

/-- **What calls set up.**  Calls in any order and number set up nothing exactly if none of them gives a
checker, which is then reported as missing, or else none gives a store.  Otherwise the setup has the checker,
the store and the resolvers of the last calls for them, the default and the number of containers at a time of
the last calls that give these, by themselves or with a policy, and the deadline of the last call for one,
before or after all policies, or else that of the last policy.  Without a call for a deadline the setup is the
one for the policy that the calls give. -/
theorem ofCalls_eq_last (calls : List Call) :
    (Setup.ofCalls calls = .error .checker ↔ ∀ c, .checker c ∉ calls) ∧
    (Setup.ofCalls calls = .error .store ↔ (∃ c, .checker c ∈ calls) ∧ ∀ s, .store s ∉ calls) ∧
    ∀ c s, lastGiven? Call.checker? calls = some c → lastGiven? Call.store? calls = some s →
      let resolver := (lastGiven? Call.resolver? calls).getD (.ofAnnotations Pattern.compiler)
      Setup.ofCalls calls = .ok
        { checker := c
          store := s
          resolver := resolver
          limits :=
            { checkByDefault := (lastGiven? Call.checkByDefault? calls).getD false
              deadline := deadlineGiven calls
              concurrency := max 1 ((lastGiven? Call.maxConcurrent? calls).getD 1).toNat } } ∧
      ((∀ d, .deadline d ∉ calls) →
        Setup.ofCalls calls = .ok (.ofPolicy c s resolver (policyGiven calls))) := by
  have hchecker : lastGiven? Call.checker? calls = none ↔ ∀ c, .checker c ∉ calls :=
    lastGiven?_eq_none_iff_not_mem fun _ _ => Call.checker?_eq_some_iff
  have hstore : lastGiven? Call.store? calls = none ↔ ∀ s, .store s ∉ calls :=
    lastGiven?_eq_none_iff_not_mem fun _ _ => Call.store?_eq_some_iff
  have hdeadline : lastGiven? Call.deadline? calls = none ↔ ∀ d, .deadline d ∉ calls :=
    lastGiven?_eq_none_iff_not_mem fun _ _ => Call.deadline?_eq_some_iff
  have hgiven : (∃ c, .checker c ∈ calls) ↔ ¬lastGiven? Call.checker? calls = none := by
    rw [hchecker]
    push Not
    rfl
  refine ⟨?_, ?_, fun c s hc hs => ?_⟩
  · rw [← hchecker, setup_ofCalls_eq]
    cases lastGiven? Call.checker? calls <;> cases lastGiven? Call.store? calls <;> simp
  · rw [← hstore, hgiven, setup_ofCalls_eq]
    cases lastGiven? Call.checker? calls <;> cases lastGiven? Call.store? calls <;> simp
  · intro resolver
    rw [setup_ofCalls_eq, hc, hs, limits_ofCalls]
    refine ⟨rfl, fun hnone => ?_⟩
    rw [← deadline_policyGiven (hdeadline.2 hnone)]
    rfl

/-- Calls in a confused order: the deadline of zero stands before a policy with other seconds, and the last
policy takes back the default and the number of containers at a time that were given before it.  Without the
deadline the seconds of the last policy count. -/
theorem ofCalls_eq_last_confused :
    let first : Checker := Script.checker ⟨[]⟩
    let second : Checker := Script.checker ⟨[("app", [{ answer := .never }])]⟩
    let before : List Call := [.maxConcurrent 8, .checker first, .policy { timeoutSeconds := some 30 }]
    let after : List Call := [.checkByDefault true, .store .empty,
      .policy { timeoutSeconds := some 5, maxConcurrent := 0 }, .checker second]
    let calls := before ++ after
    let timed := before ++ .deadline (.ofMillis 0) :: after
    lastGiven? Call.checker? timed = some second ∧ lastGiven? Call.store? timed = some .empty ∧
    Setup.ofCalls timed = .ok ⟨second, .empty, .ofAnnotations Pattern.compiler, ⟨false, some (.ofMillis 0), 1⟩⟩ ∧
    lastGiven? Call.checker? calls = some second ∧ lastGiven? Call.store? calls = some .empty ∧
    (∀ d, .deadline d ∉ calls) ∧
    Setup.ofCalls calls = .ok (.ofPolicy second .empty (.ofAnnotations Pattern.compiler) ⟨false, some 5, 0⟩) := by
  intro first second before after calls timed
  have htimed : lastGiven? Call.checker? timed = some second := rfl
  have hstore : lastGiven? Call.store? timed = some .empty := rfl
  have hchecker : lastGiven? Call.checker? calls = some second := rfl
  have hstore' : lastGiven? Call.store? calls = some .empty := rfl
  have hnone : ∀ d, .deadline d ∉ calls := by simp [calls, before, after]
  obtain ⟨-, -, hsetup⟩ := ofCalls_eq_last timed
  obtain ⟨-, -, hsetup'⟩ := ofCalls_eq_last calls
  obtain ⟨hok, -⟩ := hsetup second .empty htimed hstore
  obtain ⟨-, hpolicy⟩ := hsetup' second .empty hchecker hstore'
  exact ⟨htimed, hstore, hok, hchecker, hstore', hnone, hpolicy hnone⟩

end Freshness.Sync
