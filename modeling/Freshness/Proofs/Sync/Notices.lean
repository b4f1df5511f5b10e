import Freshness.Proofs.Sync.Story

/-!
# What the store adds to the trace

The changes in the trace of the work on a pod go through the store, and the store may log something about each
of them.  Everything else stays as it was and where it was: whoever reads the trace without regard to the log
records of the store reads the same before and after (`filter_throughStore`).  What is new stands right where
the change stands, within the spans in which the change is made (`mem_throughStore`).
-/

namespace Freshness.Sync

variable {α : Type} {m : Moment}

/-- What the store logs about a change is that a series is absent. -/
lemma eq_of_mem_storeNotice {store : Store} {change : Store.Change} {ev : Event}
    (h : ev ∈ storeNotice store change) :
    ∃ e, ev = .logged (.seriesAbsent e) := by
  obtain ⟨e, -, rfl⟩ := List.mem_map.1 h
  exact ⟨e, rfl⟩

/-- What the trace holds that is no log record of the store is the same before and after it goes through the
store. -/
theorem filter_throughStore {p : Moment → Bool}
    (hp : ∀ time position spans e, p ⟨time, position, spans, .logged (.seriesAbsent e)⟩ = false)
    (store : Store) (trace : List Moment) : (throughStore store trace).2.filter p = trace.filter p := by
  induction trace generalizing store with
  | nil => rfl
  | cons m rest ih =>
    unfold throughStore
    split
    · rw [List.filter_cons, List.filter_cons, ih]
    · rename_i change _
      have hnotices : ((storeNotice store change).map fun e =>
          (⟨m.time, m.position, m.spans, e⟩ : Moment)).filter p = [] := by
        refine List.filter_eq_nil_iff.2 fun x hx => ?_
        obtain ⟨ev, hev, rfl⟩ := List.mem_map.1 hx
        obtain ⟨e, rfl⟩ := eq_of_mem_storeNotice hev
        rw [hp]
        exact Bool.false_ne_true
      rw [List.filter_append, List.filter_cons, hnotices, ih, List.filter_cons]
      split <;> rfl

/-- What is read from the trace is the same after it has gone through the store if nothing is read from the
log records of the store. -/
lemma filterMap_throughStore {f : Moment → Option α}
    (hf : ∀ time position spans e, f ⟨time, position, spans, .logged (.seriesAbsent e)⟩ = none)
    (store : Store) (trace : List Moment) :
    (throughStore store trace).2.filterMap f = trace.filterMap f := by
  have hread : ∀ l : List Moment, l.filterMap f = (l.filter fun m => (f m).isSome).filterMap f := by
    intro l
    rw [List.filterMap_filter]
    refine List.filterMap_congr fun m _ => ?_
    cases f m <;> rfl
  have hsame : (throughStore store trace).2.filter (fun m => (f m).isSome) =
      trace.filter fun m => (f m).isSome :=
    filter_throughStore (fun time position spans e => by rw [hf]; rfl) store trace
  rw [hread, hsame, ← hread]

/-- What is read from the events of a container is the same after the trace has gone through the store if
nothing is read from the log records of the store. -/
lemma filterMap_eventsAt_throughStore {f : Event → Option α}
    (hf : ∀ e, f (.logged (.seriesAbsent e)) = none) (store : Store) (trace : List Moment)
    (i : Nat) :
    (eventsAt (throughStore store trace).2 i).filterMap f = (eventsAt trace i).filterMap f := by
  have hread : ∀ l : List Moment, (eventsAt l i).filterMap f =
      l.filterMap fun m => if m.position == some i then f m.event else none := by
    intro l
    unfold eventsAt momentsAt
    rw [List.filterMap_map, List.filterMap_filter]
    rfl
  rw [hread, hread]
  refine filterMap_throughStore (fun time position spans e => ?_) store trace
  rw [hf, ite_self]

/-- The log records of the store are not counted where log records do not count. -/
lemma countP_throughStore {p : Event → Bool} (hp : ∀ r, p (.logged r) = false) (store : Store)
    (trace : List Moment) : (throughStore store trace).2.countP (p ·.event) = trace.countP (p ·.event) := by
  rw [List.countP_eq_length_filter, List.countP_eq_length_filter,
    filter_throughStore (fun _ _ _ e => hp (.seriesAbsent e))]

/-- The log records of the store cancel nothing. -/
lemma cancelledIn_throughStore (store : Store) (trace : List Moment) :
    cancelledIn (throughStore store trace).2 = cancelledIn trace := by
  have hcount : (throughStore store trace).2.countP (·.event.isCancellation) =
      trace.countP (·.event.isCancellation) := countP_throughStore (fun _ => rfl) store trace
  unfold cancelledIn
  rw [Bool.eq_iff_iff, List.any_eq_true, List.any_eq_true, ← List.countP_pos_iff, hcount,
    List.countP_pos_iff]

/-- What stands in a trace that has gone through the store stood there before, or is what the store logs about
a change that stands there. -/
theorem mem_throughStore {store : Store} {trace : List Moment} (h : m ∈ (throughStore store trace).2) :
    m ∈ trace ∨ ∃ time position spans change e,
      (⟨time, position, spans, .changed change⟩ : Moment) ∈ trace ∧
      m = ⟨time, position, spans, .logged (.seriesAbsent e)⟩ := by
  induction trace generalizing store with
  | nil => cases h
  | cons first rest ih =>
    have hrest : ∀ {store' : Store}, m ∈ (throughStore store' rest).2 →
        m ∈ first :: rest ∨ ∃ time position spans change e,
          (⟨time, position, spans, .changed change⟩ : Moment) ∈ first :: rest ∧
          m = ⟨time, position, spans, .logged (.seriesAbsent e)⟩ := by
      intro store' hm
      rcases ih hm with hthere | ⟨time, position, spans, change, e, hchange, rfl⟩
      · exact .inl (List.mem_cons_of_mem _ hthere)
      · exact .inr ⟨time, position, spans, change, e, List.mem_cons_of_mem _ hchange, rfl⟩
    unfold throughStore at h
    split at h
    · rcases List.mem_cons.1 h with rfl | hm
      · exact .inl List.mem_cons_self
      · exact hrest hm
    · rename_i change hchange
      rcases List.mem_append.1 h with hm | hm
      · rcases List.mem_cons.1 hm with rfl | hnotice
        · exact .inl List.mem_cons_self
        · right
          obtain ⟨ev, hev, rfl⟩ := List.mem_map.1 hnotice
          obtain ⟨e, rfl⟩ := eq_of_mem_storeNotice hev
          have hfirst : first = ⟨first.time, first.position, first.spans, .changed change⟩ := by
            obtain ⟨time, position, spans, event⟩ := first
            cases event <;> simp_all [Event.change?]
          exact ⟨first.time, first.position, first.spans, change, e, hfirst ▸ List.mem_cons_self, rfl⟩
      · exact hrest hm

end Freshness.Sync
