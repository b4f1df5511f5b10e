import Freshness.Proofs.Store.Entries
import Freshness.Proofs.Store.Isolation
import Freshness.Store.Exposition

/-!
# Whose series are published

Entries whose labels have one identity share one series.  The series keeps the labels with which it was
made and takes the value of whichever of them is added next, and it is taken back as soon as one of them
leaves.  So it is never left behind: as long as it is published, all entries that had a part in it are
still in the store.

`Owned` says this of a store and the changes that led to it: each series has the labels of an entry, its
owner, and the value of the entry of its identity that was added last (`lastAdded?`), and each identity
has at most one series.  No assumption is made on identities.
-/

namespace Freshness.Store

/-- The entry of an identity that changes added last. -/
def lastAdded? (changes : List Change) (identity : UInt64) : Option Entry :=
  ((changes.filterMap Change.entry?).filter (·.labels.identity == identity)).getLast?

/-- The published series of a store that changes led to belong to its entries: one for each identity, with
the labels of an entry and the value of the entry that was added last. -/
structure Owned (s : Store) (changes : List Change) : Prop where
  identities : (s.series.map (·.labels.identity)).Nodup
  owner : ∀ t ∈ s.series, ∃ e ∈ s.entries, e.labels = t.labels
  writer : ∀ t ∈ s.series, ∃ e ∈ s.entries,
    lastAdded? changes t.labels.identity = some e ∧ e.verdict.isLatest = t.isLatest

/-! ## The last entry of an identity -/

/-- An entry that has just been added is the last one of its identity. -/
lemma lastAdded?_concat_add_self (changes : List Change) (e : Entry) :
    lastAdded? (changes ++ [.add e]) e.labels.identity = some e := by
  simp [lastAdded?, Change.entry?]

/-- Adding an entry of another identity leaves the last one as it is. -/
lemma lastAdded?_concat_add_of_ne (changes : List Change) {e : Entry} {identity : UInt64}
    (h : e.labels.identity ≠ identity) :
    lastAdded? (changes ++ [.add e]) identity = lastAdded? changes identity := by
  simp [lastAdded?, Change.entry?, h]

/-- Removing an entry adds none. -/
lemma lastAdded?_concat_remove (changes : List Change) (k : Key) (identity : UInt64) :
    lastAdded? (changes ++ [.remove k]) identity = lastAdded? changes identity := by
  have hnone : [Change.remove k].filterMap Change.entry? = [] := rfl
  unfold lastAdded?
  rw [List.filterMap_append, hnone, List.append_nil]

/-- The last entry of an identity is of that identity. -/
lemma identity_of_lastAdded? {changes : List Change} {identity : UInt64} {e : Entry}
    (h : lastAdded? changes identity = some e) : e.labels.identity = identity := by
  have hmem := List.mem_of_getLast? h
  exact beq_iff_eq.1 (List.mem_filter.1 hmem).2

/-! ## What a change leaves -/

/-- If a change keeps a series, then every entry of its identity stays, or one with the same labels takes
its place. -/
lemma mem_entries_apply_of_mem_seriesKept {s : Store} (hkeys : s.KeysDistinct) {c : Change} {t : Series}
    (ht : t ∈ s.seriesKept c) {e : Entry} (he : e ∈ s.entries)
    (hid : e.labels.identity = t.labels.identity) :
    e ∈ (s.apply c).entries ∨ ∃ f, c = .add f ∧ f.labels = e.labels := by
  have hkept := (mem_seriesKept.1 ht).2
  have hget : s.get? e.key = some e := hkeys.get?_eq_some_iff.2 ⟨he, rfl⟩
  cases c with
  | remove k =>
    have hkey : e.key ≠ k := by
      rintro rfl
      exact hkept ⟨e, hget, hid⟩
    exact .inl (mem_without.2 ⟨he, hkey⟩)
  | add f =>
    by_cases hkey : e.key = f.key
    · right
      refine ⟨f, rfl, ?_⟩
      by_contra hlabels
      refine hkept ⟨e, ?_, hid⟩
      have hne : e.labels ≠ f.labels := fun heq => hlabels heq.symm
      simp only [displaced?, ← hkey, hget, Option.filter_some, bne_iff_ne, ne_eq, hne,
        not_false_eq_true, if_true]
    · exact .inl (List.mem_append_left _ (mem_without.2 ⟨he, hkey⟩))

/-- What is published after giving a value to labels: the series of other identities, and one of the same
identity that has this value, with the labels it had, or with the new ones. -/
lemma mem_publish {series : List Series} {s t : Series} (h : t ∈ publish series s) :
    (t.labels.identity ≠ s.labels.identity ∧ t ∈ series) ∨
      (t.labels.identity = s.labels.identity ∧ t.isLatest = s.isLatest ∧
        (t = s ∨ ∃ u ∈ series, u.labels = t.labels)) := by
  by_cases hid : t.labels.identity = s.labels.identity
  · right
    cases hpub : isPublished series s.labels with
    | false =>
      rw [publish_of_not_isPublished hpub, List.mem_append, List.mem_singleton] at h
      rcases h with h | rfl
      · have hthere : isPublished series s.labels = true := isPublished_iff.2 ⟨t, h, hid⟩
        rw [hpub] at hthere
        cases hthere
      · exact ⟨rfl, rfl, .inl rfl⟩
    | true =>
      rw [publish_of_isPublished hpub] at h
      obtain ⟨u, hu, rfl⟩ := List.mem_map.1 h
      split at hid <;> rename_i hus
      · rw [if_pos hus]
        exact ⟨hid, rfl, .inr ⟨u, hu, rfl⟩⟩
      · exact absurd (beq_iff_eq.2 hid) hus
  · exact .inl ⟨hid, (mem_publish_of_ne hid).1 h⟩

/-- Giving a value to labels leaves at most one series for each identity. -/
lemma nodup_identities_publish {series : List Series} (h : (series.map (·.labels.identity)).Nodup)
    (s : Series) : ((publish series s).map (·.labels.identity)).Nodup := by
  cases hpub : isPublished series s.labels with
  | false =>
    rw [publish_of_not_isPublished hpub, List.map_append, List.map_singleton]
    refine List.nodup_append'.2 ⟨h, List.nodup_singleton _, ?_⟩
    rw [List.disjoint_singleton]
    intro hmem
    obtain ⟨t, ht, hid⟩ := List.mem_map.1 hmem
    have hthere : isPublished series s.labels = true := isPublished_iff.2 ⟨t, ht, hid⟩
    rw [hpub] at hthere
    cases hthere
  | true =>
    rw [publish_of_isPublished hpub, List.map_map]
    refine (List.map_congr_left fun t _ => ?_) ▸ h
    rw [Function.comp_apply]
    split <;> rfl

/-- A change keeps at most one series for each identity. -/
lemma nodup_identities_seriesKept {s : Store} (h : (s.series.map (·.labels.identity)).Nodup)
    (c : Change) : ((s.seriesKept c).map (·.labels.identity)).Nodup := by
  unfold seriesKept
  split
  · exact h.sublist (List.filter_sublist.map _)
  · exact h

/-! ## Runs of changes -/

/-- The store without entries publishes nothing. -/
lemma owned_empty : empty.Owned [] where
  identities := List.nodup_nil
  owner _ ht := absurd ht List.not_mem_nil
  writer _ ht := absurd ht List.not_mem_nil

/-- Of what a change keeps each series has an owner. -/
lemma Owned.exists_owner {s : Store} {changes : List Change} (h : s.Owned changes)
    (hkeys : s.KeysDistinct) {c : Change} {t : Series} (ht : t ∈ s.seriesKept c) :
    ∃ e ∈ (s.apply c).entries, e.labels = t.labels := by
  obtain ⟨e, he, hlabels⟩ := h.owner t (mem_seriesKept.1 ht).1
  have hid : e.labels.identity = t.labels.identity := congrArg Labels.identity hlabels
  rcases mem_entries_apply_of_mem_seriesKept hkeys ht he hid with hstays | ⟨f, rfl, hf⟩
  · exact ⟨e, hstays, hlabels⟩
  · exact ⟨f, List.mem_append_right _ List.mem_cons_self, hf.trans hlabels⟩

/-- One more change leaves the series with the entries of the store. -/
lemma Owned.apply {s : Store} {changes : List Change} (h : s.Owned changes) (hkeys : s.KeysDistinct)
    (c : Change) : (s.apply c).Owned (changes ++ [c]) := by
  have hkept := nodup_identities_seriesKept h.identities c
  cases c with
  | remove k =>
    refine ⟨hkept, fun t ht => h.exists_owner hkeys ht, fun t ht => ?_⟩
    obtain ⟨e, he, hlast, hvalue⟩ := h.writer t (mem_seriesKept.1 ht).1
    have hid : e.labels.identity = t.labels.identity := identity_of_lastAdded? hlast
    rcases mem_entries_apply_of_mem_seriesKept hkeys ht he hid with hstays | ⟨f, hf, -⟩
    · exact ⟨e, hstays, (lastAdded?_concat_remove changes k _).trans hlast, hvalue⟩
    · cases hf
  | add f =>
    have hf : f ∈ (s.apply (.add f)).entries := List.mem_append_right _ List.mem_cons_self
    refine ⟨nodup_identities_publish hkept _, fun t ht => ?_, fun t ht => ?_⟩
    · rcases mem_publish ht with ⟨-, hmem⟩ | ⟨-, -, rfl | ⟨u, hu, hlabels⟩⟩
      · exact h.exists_owner hkeys hmem
      · exact ⟨f, hf, rfl⟩
      · obtain ⟨e, he, howner⟩ := h.exists_owner hkeys hu
        exact ⟨e, he, howner.trans hlabels⟩
    · rcases mem_publish ht with ⟨hne, hmem⟩ | ⟨hid, hvalue, -⟩
      · obtain ⟨e, he, hlast, hvalue⟩ := h.writer t (mem_seriesKept.1 hmem).1
        have hid : e.labels.identity = t.labels.identity := identity_of_lastAdded? hlast
        rcases mem_entries_apply_of_mem_seriesKept hkeys hmem he hid with hstays | ⟨g, hg, hlabels⟩
        · exact ⟨e, hstays, (lastAdded?_concat_add_of_ne changes hne.symm).trans hlast, hvalue⟩
        · obtain rfl := Change.add.inj hg
          exact absurd (hid.symm.trans (congrArg Labels.identity hlabels.symm)) hne
      · refine ⟨f, hf, ?_, hvalue.symm⟩
        have hid' : t.labels.identity = f.labels.identity := hid
        rw [hid']
        exact lastAdded?_concat_add_self changes f

/-- However changes lead to a store, its series belong to its entries. -/
theorem owned_ofChanges (changes : List Change) : (ofChanges changes).Owned changes := by
  induction changes using List.reverseRecOn with
  | nil => exact owned_empty
  | append_singleton cs c ih =>
    have happly : ofChanges (cs ++ [c]) = (ofChanges cs).apply c := applyAll_append empty cs [c]
    rw [happly]
    exact ih.apply (keysDistinct_ofChanges cs) c

/-! ## What owned series show -/

/-- No two series of a store have the same labels. -/
lemma Owned.nodup_labels {s : Store} {changes : List Change} (h : s.Owned changes) :
    (s.series.map (·.labels)).Nodup := by
  refine List.Nodup.of_map Labels.identity ?_
  rw [List.map_map]
  exact h.identities

/-- A store publishes at most as many series as it has entries. -/
lemma Owned.length_series_le_size {s : Store} {changes : List Change} (h : s.Owned changes) :
    s.series.length ≤ s.size := by
  have hsubset : s.series.map (·.labels) ⊆ s.entries.map (·.labels) := fun l hl => by
    obtain ⟨t, ht, rfl⟩ := List.mem_map.1 hl
    obtain ⟨e, he, hlabels⟩ := h.owner t ht
    exact List.mem_map.2 ⟨e, he, hlabels⟩
  have hle := (h.nodup_labels.subperm hsubset).length_le
  rwa [List.length_map, List.length_map] at hle

/-- A store without series shows nothing. -/
lemma render_of_series_eq_nil {s : Store} (h : s.series = []) : s.render = "" := by
  unfold render
  rw [h]
  rfl

/-- **No series is left behind.**  After any changes of the store without entries, also if labels share an
identity: the labels of each series are those of an entry; its value is that of an entry, namely of the one
of its identity that was added last; no two series have the same labels, so there are at most as many as
entries; and a store without entries has none and shows nothing. -/
theorem series_owned_ofChanges (changes : List Change) :
    let s := ofChanges changes
    (∀ t ∈ s.series,
      (∃ k e, s.get? k = some e ∧ t.labels.values =
        [e.key.pod.namespaceName, e.key.pod.name, e.key.container, e.verdict.image,
          e.verdict.currentVersion, e.verdict.latestVersion, e.verdict.os, e.verdict.architecture]) ∧
      ∃ k e, s.get? k = some e ∧ lastAdded? changes t.labels.identity = some e ∧
        t.isLatest.toNat = if e.verdict.isLatest then 1 else 0) ∧
    (s.series.map (·.labels.values)).Nodup ∧
    s.series.length ≤ s.size ∧
    (s.size = 0 → s.series = [] ∧ s.render = "") := by
  intro s
  have howned : s.Owned changes := owned_ofChanges changes
  have hkeys : s.KeysDistinct := keysDistinct_ofChanges changes
  refine ⟨fun t ht => ⟨?_, ?_⟩, ?_, howned.length_series_le_size, fun hsize => ?_⟩
  · obtain ⟨e, he, hlabels⟩ := howned.owner t ht
    refine ⟨e.key, e, hkeys.get?_eq_some_iff.2 ⟨he, rfl⟩, ?_⟩
    rw [← hlabels]
    rfl
  · obtain ⟨e, he, hlast, hvalue⟩ := howned.writer t ht
    refine ⟨e.key, e, hkeys.get?_eq_some_iff.2 ⟨he, rfl⟩, hlast, ?_⟩
    rw [← hvalue]
    cases e.verdict.isLatest <;> rfl
  · have hvalues : s.series.map (·.labels.values) = (s.series.map (·.labels)).map Labels.values := by
      rw [List.map_map]
      rfl
    rw [hvalues]
    exact howned.nodup_labels.map fun _ _ => Labels.eq_of_values_eq
  · have hnone : s.series = [] := by
      have hle := howned.length_series_le_size
      exact List.length_eq_zero_iff.1 (by omega)
    exact ⟨hnone, render_of_series_eq_nil hnone⟩

/-- `1app` in `web-1` is outdated; `app` in `web-11`, which has the same identity, is the latest. -/
def sharing : List Change :=
  [.add (outdatedIn "web-1" "1app"),
    .add { outdatedIn "web-11" "app" with
      verdict := { (outdatedIn "web-11" "app").verdict with isLatest := true } }]

/-- The two containers share a series with the labels of the first and the value of the second. -/
theorem series_owned_sharing :
    ∃ t ∈ (ofChanges sharing).series, t.labels = (outdatedIn "web-1" "1app").labels ∧
      (∃ k e, (ofChanges sharing).get? k = some e ∧ lastAdded? sharing t.labels.identity = some e ∧
        t.isLatest.toNat = if e.verdict.isLatest then 1 else 0) ∧
      t.isLatest = true ∧ (ofChanges sharing).size = 2 ∧ (ofChanges sharing).series.length = 1 := by
  have hmem : (⟨(outdatedIn "web-1" "1app").labels, true⟩ : Series) ∈ (ofChanges sharing).series := by
    decide +kernel
  obtain ⟨-, hvalue⟩ := (series_owned_ofChanges sharing).1 _ hmem
  exact ⟨_, hmem, rfl, hvalue, rfl, by decide +kernel, by decide +kernel⟩

end Freshness.Store
