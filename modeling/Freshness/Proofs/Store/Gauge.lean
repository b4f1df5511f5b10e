import Freshness.Store
import Mathlib.Data.List.Basic

/-!
# The gauge

The gauge finds a series by the identity of its labels.  Publishing and taking back therefore act on the
series of one identity and leave all others as they are: `mem_retract`, `mem_publish_of_ne`.  What
publishing does within its own identity depends on whether a series of it is there: the series keeps its
labels and gets the new value (`mem_publish_of_isPublished`), or a new series is added
(`publish_of_not_isPublished`).
-/

namespace Freshness.Store

/-- Entries with the same labels are at one place. -/
lemma key_eq_of_labels_eq {e f : Entry} (h : e.labels = f.labels) : e.key = f.key := by
  obtain ⟨⟨⟨_, _⟩, _⟩, _⟩ := e
  obtain ⟨⟨⟨_, _⟩, _⟩, _⟩ := f
  simp only [Entry.labels, Labels.mk.injEq] at h
  obtain ⟨rfl, rfl, rfl, -⟩ := h
  rfl

/-- The gauge publishes a series for labels if one of their identity is there. -/
lemma isPublished_iff {series : List Series} {l : Labels} :
    isPublished series l = true ↔ ∃ t ∈ series, t.labels.identity = l.identity := by
  simp [isPublished]

/-- A series is left by taking another one back if it is of another identity. -/
lemma mem_retract {series : List Series} {l : Labels} {t : Series} :
    t ∈ retract series l ↔ t ∈ series ∧ t.labels.identity ≠ l.identity := by
  simp [retract]

/-- Nothing of an identity is published once its series is taken back. -/
lemma isPublished_retract {series : List Series} {l m : Labels} (h : l.identity = m.identity) :
    isPublished (retract series l) m = false := by
  rw [Bool.eq_false_iff, Ne, isPublished_iff]
  rintro ⟨t, ht, hid⟩
  exact (mem_retract.1 ht).2 (hid.trans h.symm)

/-- A series of an identity that is not there yet is added. -/
lemma publish_of_not_isPublished {series : List Series} {s : Series}
    (h : isPublished series s.labels = false) : publish series s = series ++ [s] := by
  rw [publish, if_neg (by rw [h]; exact Bool.false_ne_true)]

/-- A series of an identity that is there gives it a value. -/
lemma publish_of_isPublished {series : List Series} {s : Series}
    (h : isPublished series s.labels = true) :
    publish series s = series.map fun t =>
      if t.labels.identity == s.labels.identity then { t with isLatest := s.isLatest } else t := by
  rw [publish, if_pos h]

/-- Publishing leaves the series of other identities as they are. -/
lemma mem_publish_of_ne {series : List Series} {s t : Series}
    (h : t.labels.identity ≠ s.labels.identity) : t ∈ publish series s ↔ t ∈ series := by
  cases hp : isPublished series s.labels with
  | false =>
    rw [publish_of_not_isPublished hp, List.mem_append, List.mem_singleton]
    have hts : t ≠ s := fun heq => h (heq ▸ rfl)
    exact or_iff_left hts
  | true =>
    rw [publish_of_isPublished hp, List.mem_map]
    constructor
    · rintro ⟨u, hu, rfl⟩
      split at h
      · rename_i hid
        exact absurd (beq_iff_eq.1 hid) h
      · rename_i hid
        rwa [if_neg hid]
    · intro ht
      exact ⟨t, ht, if_neg (by simpa using h)⟩

/-- A series of the published identity that was there is left if it has the published value. -/
lemma mem_publish_of_isPublished {series : List Series} {s t : Series} (ht : t ∈ series)
    (h : t.labels.identity = s.labels.identity) :
    t ∈ publish series s ↔ t.isLatest = s.isLatest := by
  rw [publish_of_isPublished (isPublished_iff.2 ⟨t, ht, h⟩), List.mem_map]
  constructor
  · rintro ⟨u, -, hu⟩
    split at hu
    · rw [← hu]
    · rename_i hid
      rw [hu] at hid
      exact absurd (beq_iff_eq.2 h) hid
  · intro hvalue
    refine ⟨t, ht, ?_⟩
    rw [if_pos (by simpa using h), ← hvalue]

end Freshness.Store
