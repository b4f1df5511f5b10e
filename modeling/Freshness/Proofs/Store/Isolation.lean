import Freshness.Proofs.Store.Gauge

/-!
# Isolation of places

Entries are told apart by their places, series by the identity of their labels.  Entries at different
places never have the same labels, but their labels can have one identity, and then they share a series.

`Disturbs` says when a change at one place reaches the series of an entry at another place: the change
takes back an entry of the same identity, or gives the identity another value.
`mem_series_apply_iff_not_disturbs` shows that a published series is left as it is exactly when the
change does not disturb it.  Changes that disturb exist: label values are written one after the other
without a separator, so the labels of `web-1` and `1app` have the identity of those of `web-11` and
`app` (`not_forall_mem_series_apply`).
-/

namespace Freshness.Store

/-- A change disturbs a series if it takes back an entry whose labels have the identity of the series, or
adds an entry whose labels have that identity, with another value. -/
def Disturbs (s : Store) (c : Change) (t : Series) : Prop :=
  (∃ old, s.displaced? c = some old ∧ old.labels.identity = t.labels.identity) ∨
    ∃ e, c = .add e ∧ e.labels.identity = t.labels.identity ∧ e.verdict.isLatest ≠ t.isLatest

/-- A series is kept by a change unless the change takes back an entry of its identity. -/
lemma mem_seriesKept {s : Store} {c : Change} {t : Series} :
    t ∈ s.seriesKept c ↔
      t ∈ s.series ∧ ¬∃ old, s.displaced? c = some old ∧ old.labels.identity = t.labels.identity := by
  unfold seriesKept
  cases hd : s.displaced? c with
  | none => simp
  | some old =>
    simp only [mem_retract, Option.some.injEq, exists_eq_left']
    exact and_congr_right fun _ => not_congr eq_comm

/-- A series is gone after a change elsewhere that takes back an entry of its identity. -/
lemma not_mem_series_apply_of_displaced {s : Store} {c : Change} {e : Entry} {b : Bool}
    (hkey : e.key ≠ c.key) {old : Entry} (hold : s.displaced? c = some old)
    (hid : old.labels.identity = e.labels.identity) :
    (⟨e.labels, b⟩ : Series) ∉ (s.apply c).series := by
  have hkept : (⟨e.labels, b⟩ : Series) ∉ s.seriesKept c := fun h =>
    (mem_seriesKept.1 h).2 ⟨old, hold, hid⟩
  cases c with
  | remove k => exact hkept
  | add f =>
    have hlabels : e.labels ≠ f.labels := fun h => hkey (key_eq_of_labels_eq h)
    by_cases hfe : e.labels.identity = f.labels.identity
    · -- the identity is free once `old` is taken back, so `f` gets a series with its own labels
      have hfree : isPublished (s.seriesKept (.add f)) f.series.labels = false := by
        rw [seriesKept, hold]
        exact isPublished_retract (hid.trans hfe)
      rw [apply, publish_of_not_isPublished hfree, List.mem_append, List.mem_singleton]
      rintro (h | h)
      · exact hkept h
      · exact hlabels (congrArg Series.labels h)
    · rw [apply, mem_publish_of_ne (s := f.series) (t := ⟨e.labels, b⟩) hfe]
      exact hkept

/-- A published series that a change keeps is left as it is unless the change gives its identity another
value. -/
lemma mem_series_apply_iff_of_mem_seriesKept {s : Store} {c : Change} {t : Series}
    (hkept : t ∈ s.seriesKept c) :
    t ∈ (s.apply c).series ↔
      ¬∃ e, c = .add e ∧ e.labels.identity = t.labels.identity ∧ e.verdict.isLatest ≠ t.isLatest := by
  cases c with
  | remove k => simpa [apply] using hkept
  | add f =>
    simp only [Change.add.injEq, exists_eq_left', not_and, not_not]
    by_cases hfe : t.labels.identity = f.labels.identity
    · rw [apply, mem_publish_of_isPublished (s := f.series) hkept hfe, Entry.series]
      exact ⟨fun h _ => h.symm, fun h => (h hfe.symm).symm⟩
    · rw [apply, mem_publish_of_ne (s := f.series) hfe]
      exact iff_of_true hkept fun h => absurd h.symm hfe

/-- **Isolation.**  A published series of an entry is left as it is by a change at another place, with
its labels and its value, exactly when the change does not disturb it. -/
theorem mem_series_apply_iff_not_disturbs (s : Store) (c : Change) (e : Entry) (b : Bool)
    (hkey : e.key ≠ c.key) (hpub : (⟨e.labels, b⟩ : Series) ∈ s.series) :
    (⟨e.labels, b⟩ : Series) ∈ (s.apply c).series ↔ ¬s.Disturbs c ⟨e.labels, b⟩ := by
  by_cases hback : ∃ old, s.displaced? c = some old ∧ old.labels.identity = e.labels.identity
  · obtain ⟨old, hold, hid⟩ := hback
    refine iff_of_false (not_mem_series_apply_of_displaced hkey hold hid) fun h => h ?_
    exact Or.inl ⟨old, hold, hid⟩
  · rw [mem_series_apply_iff_of_mem_seriesKept (mem_seriesKept.2 ⟨hpub, hback⟩), Disturbs]
    exact not_congr (or_iff_right hback).symm

/-! ## Pods whose names run into those of their containers -/

/-- An outdated container of a pod in the namespace `apps`. -/
def outdatedIn (pod container : String) : Entry where
  key := ⟨⟨"apps", pod⟩, container⟩
  verdict := ⟨"repo/img", "1.2.0", "1.3.0", false, "linux", "amd64"⟩

/-- The series of `app` in `web-1` is left as it is when `app` in `web-2` is removed. -/
theorem mem_series_apply_remove_web2 :
    (outdatedIn "web-1" "app").series ∈
      ((ofChanges [.add (outdatedIn "web-1" "app"), .add (outdatedIn "web-2" "app")]).apply
        (.remove (outdatedIn "web-2" "app").key)).series := by
  refine (mem_series_apply_iff_not_disturbs _ _ (outdatedIn "web-1" "app") false (by decide)
    (by decide +kernel)).2 ?_
  rintro (⟨old, hold, hid⟩ | ⟨e, he, -⟩)
  · have hold' : some (outdatedIn "web-2" "app") = some old := hold ▸ by decide +kernel
    obtain rfl := Option.some.inj hold'
    exact absurd hid (by decide +kernel)
  · exact Change.noConfusion he

/-- Changes at one place can reach the series at another: with `1app` in `web-1` and `app` in `web-11`,
removing the one takes the series of the other away. -/
theorem not_forall_mem_series_apply :
    ¬∀ (changes : List Change) (c : Change) (e : Entry) (b : Bool),
      e ∈ (ofChanges changes).entries → e.key ≠ c.key →
      (⟨e.labels, b⟩ : Series) ∈ (ofChanges changes).series →
      (⟨e.labels, b⟩ : Series) ∈ ((ofChanges changes).apply c).series := by
  intro h
  have hmem := h [.add (outdatedIn "web-1" "1app"), .add (outdatedIn "web-11" "app")]
    (.remove (outdatedIn "web-11" "app").key) (outdatedIn "web-1" "1app") false
    (by decide +kernel) (by decide) (by decide +kernel)
  exact absurd hmem (by decide +kernel)

end Freshness.Store
