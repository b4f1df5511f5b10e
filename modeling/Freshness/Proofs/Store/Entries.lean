import Freshness.Store
import Mathlib.Data.Set.Card

/-!
# The entries of the store as a map

A store that changes lead to holds at most one entry for each place, so that its list of entries is a map
from places to entries, read by `get?`.  `KeysDistinct` says so; every change keeps it.

`lastAt` picks the last of several changes at a place.  After any changes, a place holds what the last
change there put into it, and a place without a change holds what it held before
(`get?_applyAll`).
-/

namespace Freshness.Store

/-- No two entries of the store are at one place. -/
def KeysDistinct (s : Store) : Prop := (s.entries.map (·.key)).Nodup

/-- The entry that a change puts at its place, none if it empties the place. -/
def Change.entry? : Change → Option Entry
  | .add e => some e
  | .remove _ => none

/-- The last of several changes at a place. -/
def lastAt (k : Key) (changes : List Change) : Option Change :=
  (changes.filter (·.key == k)).getLast?

/-! ## One entry for each place -/

/-- What is left when a place is left out are the entries at other places. -/
lemma mem_without {entries : List Entry} {k : Key} {e : Entry} :
    e ∈ without entries k ↔ e ∈ entries ∧ e.key ≠ k := by
  simp [without]

/-- The store without entries has no two entries at one place. -/
lemma keysDistinct_empty : empty.KeysDistinct := List.nodup_nil

/-- A change leaves no two entries at one place. -/
lemma KeysDistinct.apply {s : Store} (h : s.KeysDistinct) (c : Change) : (s.apply c).KeysDistinct := by
  have hwithout : ∀ k, ((without s.entries k).map (·.key)).Nodup := fun k =>
    h.sublist (List.filter_sublist.map _)
  cases c with
  | remove k => exact hwithout k
  | add e =>
    unfold KeysDistinct
    simp only [Store.apply, List.map_append, List.map_cons, List.map_nil]
    refine List.nodup_append'.2 ⟨hwithout e.key, List.nodup_singleton _, ?_⟩
    rw [List.disjoint_singleton]
    intro hmem
    obtain ⟨f, hf, hkey⟩ := List.mem_map.1 hmem
    exact (mem_without.1 hf).2 hkey

/-- Changes leave no two entries at one place. -/
lemma KeysDistinct.applyAll {s : Store} (h : s.KeysDistinct) (changes : List Change) :
    (s.applyAll changes).KeysDistinct := by
  induction changes generalizing s with
  | nil => exact h
  | cons c cs ih => exact ih (h.apply c)

/-- A store that changes lead to has no two entries at one place. -/
lemma keysDistinct_ofChanges (changes : List Change) : (ofChanges changes).KeysDistinct :=
  keysDistinct_empty.applyAll changes

/-- A store is read at the places of its entries. -/
lemma KeysDistinct.get?_eq_some_iff {s : Store} (h : s.KeysDistinct) {k : Key} {e : Entry} :
    s.get? k = some e ↔ e ∈ s.entries ∧ e.key = k := by
  constructor
  · intro hget
    exact ⟨List.mem_of_find?_eq_some hget, by simpa using List.find?_some hget⟩
  · rintro ⟨hmem, rfl⟩
    cases hget : s.get? e.key with
    | none =>
      have hnone := List.find?_eq_none.1 hget e hmem
      simp at hnone
    | some f =>
      have hf : f ∈ s.entries := List.mem_of_find?_eq_some hget
      have hkey : f.key = e.key := by simpa using List.find?_some hget
      rw [List.inj_on_of_nodup_map h hf hmem hkey]

/-- A place without an entry is left out for nothing. -/
lemma without_eq_self_of_get?_eq_none {s : Store} {k : Key} (h : s.get? k = none) :
    without s.entries k = s.entries := by
  refine List.filter_eq_self.2 fun e he => ?_
  simpa using List.find?_eq_none.1 h e he

/-- The entries are the one at a place, and those at other places. -/
lemma KeysDistinct.entries_perm {s : Store} (h : s.KeysDistinct) {k : Key} {old : Entry}
    (hold : s.get? k = some old) : s.entries.Perm (old :: without s.entries k) := by
  obtain ⟨hmem, rfl⟩ := h.get?_eq_some_iff.1 hold
  have hnodup : s.entries.Nodup := h.of_map
  refine (List.perm_cons_erase hmem).trans (List.Perm.cons _ ?_)
  rw [hnodup.erase_eq_filter]
  refine List.Perm.of_eq (List.filter_congr fun e he => ?_)
  -- places tell entries apart, so leaving out the entry is leaving out its place
  have hiff : e = old ↔ e.key = old.key :=
    ⟨fun heq => heq ▸ rfl, fun hkey => List.inj_on_of_nodup_map h he hmem hkey⟩
  rw [bne, bne, Bool.not_eq_eq_eq_not, Bool.not_not, Bool.eq_iff_iff, beq_iff_eq, beq_iff_eq, hiff]

/-- Stores that hold the same at every place hold the same entries. -/
lemma KeysDistinct.perm_of_get?_eq {s s' : Store} (h : s.KeysDistinct) (h' : s'.KeysDistinct)
    (hget : ∀ k, s.get? k = s'.get? k) : s.entries.Perm s'.entries := by
  refine (List.perm_ext_iff_of_nodup h.of_map h'.of_map).2 fun e => ?_
  have hmem : s.get? e.key = some e ↔ e ∈ s.entries := by simp [h.get?_eq_some_iff]
  have hmem' : s'.get? e.key = some e ↔ e ∈ s'.entries := by simp [h'.get?_eq_some_iff]
  rw [← hmem, ← hmem', hget]

/-- The size of the store is the number of places that hold an entry. -/
theorem KeysDistinct.encard_eq_size {s : Store} (h : s.KeysDistinct) :
    {k | (s.get? k).isSome}.encard = s.size := by
  have hset : {k | (s.get? k).isSome} = ((s.entries.map (·.key)).toFinset : Set Key) := by
    ext k
    simp only [Set.mem_ofPred_eq, List.coe_toFinset, List.mem_map, Option.isSome_iff_exists,
      h.get?_eq_some_iff]
  rw [hset, Set.encard_coe_eq_coe_finsetCard, List.toFinset_card_of_nodup h, List.length_map, size]

/-! ## The last change at a place -/

/-- Without changes there is no last one. -/
@[simp] lemma lastAt_nil (k : Key) : lastAt k [] = none := rfl

/-- The last of two lots of changes at a place is in the second lot if there is one there. -/
@[simp] lemma lastAt_append (k : Key) (cs ds : List Change) :
    lastAt k (cs ++ ds) = (lastAt k ds).or (lastAt k cs) := by
  simp [lastAt, List.getLast?_append]

/-- One change is the last one at its own place. -/
@[simp] lemma lastAt_singleton (k : Key) (c : Change) :
    lastAt k [c] = if c.key = k then some c else none := by
  by_cases h : c.key = k <;> simp [lastAt, h]

/-- After changes a place holds what the last of them there put into it, or else what it held before. -/
theorem get?_applyAll (s : Store) (changes : List Change) (k : Key) :
    (s.applyAll changes).get? k = match lastAt k changes with
      | some c => c.entry?
      | none => s.get? k := by
  induction changes using List.reverseRecOn with
  | nil => rfl
  | append_singleton cs c ih =>
    rw [applyAll_append, applyAll_cons, applyAll_nil, get?_apply, lastAt_append, lastAt_singleton]
    by_cases hk : c.key = k
    · subst hk
      cases c <;> simp [Change.entry?]
    · rw [if_neg (Ne.symm hk), if_neg hk, Option.none_or]
      exact ih

end Freshness.Store
