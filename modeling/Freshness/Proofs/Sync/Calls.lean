import Freshness.Proofs.Sync.Place

/-!
# Calls of the checker

The checker is called in the first turn of a container only, and only if the work on the pod is not yet
cancelled.  Every call in the trace stands at the position of a container of that name
(`callsInPlace_report`).  In a pod whose containers have names of their own, no call for the name of a
container comes before the container itself (`callsIn_before_report`).
-/

namespace Freshness.Sync

/-- An event is a call for a name exactly if it calls a check for a container of that name. -/
lemma Event.isCallFor_eq_true_iff {e : Event} {name : String} :
    e.isCallFor name = true ↔ e.calledName? = some name := by
  cases e <;> simp [isCallFor, calledName?]

namespace Context

variable {ctx : Context} {c : Container} {ev : Event}

/-! ## Calls in turns -/

/-- Questions call nothing. -/
lemma calledName?_of_isQuestion (h : ev.isQuestion = true) : ev.calledName? = none := by
  cases ev <;> simp_all [Event.isQuestion, Event.calledName?]

/-- The end of a container calls nothing. -/
lemma calledName?_of_mem_ending {time : Nat} {e : Ending} (h : ev ∈ (ctx.ending time c e).events) :
    ev.calledName? = none :=
  calledName?_of_mem_endingEvents (e := e) h

/-- Settling a check calls nothing. -/
lemma calledName?_of_mem_settle {time : Nat} {a : Answer} (h : ev ∈ (ctx.settle time c a).events) :
    ev.calledName? = none := by
  rcases List.mem_cons.1 h with rfl | hending
  · rfl
  · exact calledName?_of_mem_endingEvents hending

/-- A check that goes on waiting calls nothing. -/
lemma calledName?_of_mem_await {time : Nat} {check : Check} (h : ev ∈ (ctx.await time c check).events) :
    ev.calledName? = none := by
  unfold await at h
  split at h
  · exact calledName?_of_mem_settle h
  · cases h

/-- The cancelling of the work by a check calls nothing. -/
lemma calledName?_of_mem_cancelling {cancels : Bool} (h : ev ∈ cancelling cancels) :
    ev.calledName? = none := by
  cases cancels with
  | false => cases h
  | true =>
    rw [List.mem_singleton.1 h]
    rfl

/-- A check that is done with waiting calls nothing. -/
lemma calledName?_of_mem_conclude {time : Nat} {check : Check}
    (h : ev ∈ (ctx.conclude time c check).events) : ev.calledName? = none := by
  unfold conclude at h
  rcases List.mem_append.1 h with hpre | hrest
  · rcases List.mem_append.1 hpre with hcancel | hreply
    · exact calledName?_of_mem_cancelling hcancel
    · rw [List.mem_singleton.1 hreply]
      rfl
  · split at hrest
    · exact calledName?_of_mem_settle hrest
    · exact calledName?_of_mem_await hrest

/-- The call of a check comes first in its turn, and no other follows. -/
lemma exists_events_callCheck (time : Nat) (c : Container) (o : Options) (n : Nat) :
    ∃ rest, (ctx.callCheck time c o n).events = .checkCalled c o :: rest ∧
      ∀ ev ∈ rest, ev.calledName? = none := by
  refine ⟨_, rfl, fun ev hmem => ?_⟩
  rcases List.mem_append.1 hmem with hcancel | hrest
  · exact calledName?_of_mem_cancelling hcancel
  · split at hrest
    · exact calledName?_of_mem_conclude hrest
    · exact calledName?_of_mem_await hrest

/-- A container that begins calls the checker for itself, if at all, and not if the work is cancelled. -/
lemma calledName?_of_mem_start {time n : Nat} {b : Bool} (h : ev ∈ (ctx.start time b n c).events) :
    ev.calledName? = none ∨ b = false ∧ ev.calledName? = some c.name := by
  rcases ctx.start_cases time b n c with ⟨asked, e, hasked, hstart⟩ | ⟨o, -, hstart⟩
  · rw [hstart] at h
    rcases List.mem_append.1 h with hquestion | hending
    · exact .inl (calledName?_of_isQuestion (hasked ev hquestion))
    · exact .inl (calledName?_of_mem_ending hending)
  · rw [hstart] at h
    rcases List.mem_append.1 h with hopening | hcheck
    · simp only [opening, List.mem_cons, List.not_mem_nil, or_false] at hopening
      rcases hopening with rfl | rfl | rfl <;> exact .inl rfl
    · cases b with
      | true => exact .inl (calledName?_of_mem_settle hcheck)
      | false =>
        obtain ⟨rest, hevents, hrest⟩ := ctx.exists_events_callCheck time c o n
        have hmem : ev ∈ .checkCalled c o :: rest := hevents ▸ hcheck
        rcases List.mem_cons.1 hmem with rfl | hmem
        · exact .inr ⟨rfl, rfl⟩
        · exact .inl (hrest ev hmem)

/-! ## Calls in the trace -/

variable {earlier : String → Nat}

/-- Every call stands at the position of a container of that name. -/
def CallsInPlace (containers : List Container) (trace : List Moment) : Prop :=
  ∀ m ∈ trace, ∀ name, m.event.calledName? = some name →
    ∃ j c, m.position = some j ∧ containers[j]? = some c ∧ c.name = name

/-- A container calls the checker for itself only. -/
lemma Own.name_eq {name : String} (h : ctx.Own c ev) (hcall : ev.calledName? = some name) :
    c.name = name := by
  cases h <;> simp_all [Event.calledName?]

/-- The calls in a report stand at the positions of containers of their names. -/
lemma callsInPlace_report (setup : Setup) (earlier : String → Nat) (t : Task) :
    CallsInPlace t.pod.containers (setup.report earlier t).trace := by
  intro m hm name hcall
  rcases inPlace_report setup earlier t m hm with (⟨-, he | he⟩ | ⟨j, c, hj, hc, hown⟩) | ⟨-, hnote⟩
  · rw [he] at hcall
    cases hcall
  · rw [he] at hcall
    cases hcall
  · exact ⟨j, c, hj, hc, hown.name_eq hcall⟩
  · cases he : m.event <;> simp [he, Event.isNote, Event.calledName?] at hnote hcall

/-- If the containers of a pod have names of their own, then no call for the name of one of them comes
before it. -/
theorem callsIn_before_report {setup : Setup} {t : Task}
    (hnames : (t.pod.containers.map (·.name)).Nodup) {i : Nat} (hc : t.pod.containers[i]? = some c) :
    callsIn (before (setup.report earlier t).trace i) c.name = 0 := by
  refine List.countP_eq_zero.2 fun m hm hcall => ?_
  have hother : (m.position != some i) = true := List.all_eq_true.1 List.all_takeWhile m hm
  obtain ⟨j, d, hj, hd, hname⟩ := callsInPlace_report setup earlier t m
    ((List.takeWhile_prefix _).subset hm) c.name (Event.isCallFor_eq_true_iff.1 hcall)
  have heq : j = i := position_eq_of_name_eq hnames hc hd hname
  rw [hj, heq] at hother
  simp at hother

end Context

end Freshness.Sync
