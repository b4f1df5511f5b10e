import Freshness.Sync.State

/-!
# The course of the work comes to its end

What is due is due in a slot, or it is the cancellation that is still to come.  Each turn of a check and each
beginning of a container makes `State.measure` smaller (`measure_turn_lt`, `measure_beginNext_lt`), so a run takes
at most as many steps as the measure of its start.
-/

namespace Freshness.Sync

/-! ## What is due -/

theorem earliest?_mem {ds : List (Nat × Due)} {d : Nat × Due} (h : earliest? ds = some d) : d ∈ ds := by
  induction ds with
  | nil => simp [earliest?] at h
  | cons e es ih =>
    simp only [earliest?] at h
    split at h
    · simp_all
    · rename_i f hf
      split at h
      · simp only [Option.some.injEq] at h
        exact List.mem_cons_of_mem _ (ih (h ▸ hf))
      · simp_all

namespace Slot

/-- What is due in a slot is the waking of its check, unless its deadline passes before, or else the deadline of
its check. -/
theorem due?_eq_some {i : Nat} {s : Slot} {d : Nat × Due} (h : s.due? i = some d) :
    ∃ c, s.progress = .waiting c ∧
      ((∃ w, c.wake = some w ∧ (∀ t ∈ c.deadline, w ≤ t) ∧ d = (w, .waking i s c)) ∨
        ∃ t, c.deadline = some t ∧ (∀ w ∈ c.wake, t < w) ∧ d = (t, .deadline i s)) := by
  cases hp : s.progress with
  | ended t e => simp [due?, check?, hp] at h
  | waiting c =>
    refine ⟨c, rfl, ?_⟩
    simp only [due?, check?, hp, Option.bind_some] at h
    cases hw : c.wake <;> cases hd : c.deadline <;> simp only [hw, hd] at h
    · cases h
    · exact .inr ⟨_, rfl, by simp, (Option.some.inj h).symm⟩
    · exact .inl ⟨_, rfl, by simp, (Option.some.inj h).symm⟩
    · split at h
      next hle => exact .inl ⟨_, rfl, by simpa using hle, (Option.some.inj h).symm⟩
      next hlt => exact .inr ⟨_, rfl, by simpa using hlt, (Option.some.inj h).symm⟩

theorem weight_pos {s : Slot} {c : Check} (h : s.progress = .waiting c) : 0 < s.weight := by
  simp only [weight, h]; split <;> omega

theorem weight_le_two (s : Slot) : s.weight ≤ 2 := by
  unfold weight; split <;> (try split) <;> omega

end Slot

namespace State

/-- What is due at a place of the course is a cancellation that is still to come, or is due in one of
the slots. -/
theorem mem_allDue {s : State} {d : Nat × Due} (h : d ∈ s.allDue) :
    (∃ t, s.cancelAt = some t ∧ d = (t, .cancellation)) ∨
      ∃ (i : Nat) (slot : Slot), s.slots[i]? = some slot ∧ slot.due? i = some d := by
  simp only [allDue, List.mem_append, Option.mem_toList, Option.map_eq_some_iff,
    List.mem_filterMap, Prod.exists] at h
  rcases h with ⟨t, ht, rfl⟩ | ⟨slot, i, hi, hd⟩
  · exact .inl ⟨t, ht, rfl⟩
  · rw [List.mk_mem_zipIdx_iff_getElem?] at hi
    exact .inr ⟨i, slot, hi, hd⟩

/-- What is due by now is due next, and is a turn of a check. -/
theorem dueNow?_eq_some {s : State} {time : Nat} {due : Due} (h : s.dueNow? = some (time, due)) :
    earliest? s.allDue = some (time, due) ∧ time ≤ s.now ∧ due.isCheck = true := by
  obtain ⟨hdue, hnow⟩ := Option.filter_eq_some_iff.1 h
  rw [Bool.and_eq_true, decide_eq_true_iff] at hnow
  exact ⟨hdue, hnow⟩

theorem firstWaiting?_eq_some {s : State} {i : Nat} {slot : Slot}
    (h : s.firstWaiting? = some (i, slot)) : s.slots[i]? = some slot ∧ slot.isWaiting := by
  simp only [firstWaiting?, Option.map_eq_some_iff] at h
  obtain ⟨⟨slot', j⟩, hf, he⟩ := h
  simp only [Prod.mk.injEq] at he
  obtain ⟨rfl, rfl⟩ := he
  have hm := List.mem_of_find?_eq_some hf
  have hw : slot'.isWaiting := by simpa using List.find?_some hf
  rw [List.mk_mem_zipIdx_iff_getElem?] at hm
  exact ⟨hm, hw⟩

end State

/-! ## The measure -/

namespace Slot

theorem totalWeight_append (l m : List Slot) :
    totalWeight (l ++ m) = totalWeight l + totalWeight m := by
  induction l with
  | nil => simp [totalWeight]
  | cons x xs ih =>
    simp only [List.cons_append, totalWeight, ih]
    omega

/-- The weights of slots change by what one slot has more or less to happen. -/
theorem totalWeight_set {l : List Slot} {i : Nat} {a : Slot} (h : l[i]? = some a) (b : Slot) :
    totalWeight (l.set i b) + a.weight = totalWeight l + b.weight := by
  induction l generalizing i with
  | nil => simp at h
  | cons x xs ih =>
    cases i with
    | zero =>
      simp only [List.getElem?_cons_zero, Option.some.injEq] at h
      subst h
      simp only [List.set_cons_zero, totalWeight]
      omega
    | succ j =>
      simp only [List.getElem?_cons_succ] at h
      have := ih h
      simp only [List.set_cons_succ, totalWeight]
      omega

end Slot

namespace Context

variable {ctx : Context}

/-- A check that is done with waiting does not wake again. -/
theorem weight_conclude (ctx : Context) (now : Nat) (slot : Slot) (check : Check) :
    Slot.weight { slot with progress := (ctx.conclude now slot.container check).progress } ≤ 1 := by
  unfold conclude
  split
  · simp [Turn.after, settle, ending, Slot.weight]
  · simp only [Turn.after, await]
    split <;> simp [Turn.after, settle, ending, Slot.weight]

theorem weight_settle (now : Nat) (slot : Slot) (a : Answer) :
    Slot.weight { slot with progress := (ctx.settle now slot.container a).progress } = 0 := by
  simp [Turn.after, settle, ending, Slot.weight]

/-- A turn that leaves a slot with less to happen makes the measure smaller. -/
theorem measure_turn_lt {s : State} {i : Nat} {slot : Slot} {t : Turn} (hi : s.slots[i]? = some slot)
    (h : Slot.weight { slot with progress := t.progress } < slot.weight) :
    (s.turn i slot t).measure < s.measure := by
  have := Slot.totalWeight_set hi { slot with progress := t.progress }
  simp only [State.measure, State.turn, State.queue_recordSlot, State.cancelAt_recordSlot]
  omega

/-- The beginning of a container makes the measure smaller. -/
theorem measure_beginNext_lt {earlier : String → Nat} {s : State} {c : Container}
    {rest : List Container} (h : s.queue = c :: rest) :
    (ctx.beginNext earlier s c rest).measure < s.measure := by
  simp only [beginNext, State.begin, State.measure, State.cancelAt_recordSlot, h, Slot.totalWeight_append,
    Slot.totalWeight, List.length_cons]
  have := Slot.weight_le_two ⟨c, Log.containerSpan c.name, s.now,
    (ctx.start s.now s.cancelled (earlier c.name + s.callsFor c.name) c).progress⟩
  omega

end Context

end Freshness.Sync
