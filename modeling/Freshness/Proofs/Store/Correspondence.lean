import Freshness.Proofs.Store.Entries
import Freshness.Proofs.Store.Gauge

/-!
# Entries and series correspond

The store keeps two tables: its entries by place, and the series of the gauge by identity.  As long as
entries at different places have different identities (`IdentitiesDistinct`), the two tables hold the
same: the series are the series of the entries, in some order (`Corresponds`).

A change first takes back the series of the entry that it displaces, and then publishes.  Both halves are
shown for one place at a time: `retract_perm` takes a series out together with its entry, `publish_perm`
adds one for a place that has none, and `republish_perm` gives one a value when its labels stay the same.
An entry that is displaced by one with other labels leaves the gauge before the new one enters it, so
that it does not matter whether the two have one identity.
-/

namespace Freshness.Store

/-- Entries at different places have different identities. -/
def IdentitiesDistinct (s : Store) : Prop :=
  ∀ e ∈ s.entries, ∀ f ∈ s.entries, e.key ≠ f.key → e.labels.identity ≠ f.labels.identity

instance (s : Store) : Decidable s.IdentitiesDistinct := by
  unfold IdentitiesDistinct
  infer_instance

/-- The published series are those of the entries, one for each. -/
def Corresponds (s : Store) : Prop := s.series.Perm (s.entries.map (·.series))

/-! ## One place at a time -/

/-- Taking back the series of an entry leaves the series of the entries at other places. -/
lemma Corresponds.retract_perm {s : Store} (h : s.Corresponds) (hkeys : s.KeysDistinct)
    (hids : s.IdentitiesDistinct) {k : Key} {old : Entry} (hold : s.get? k = some old) :
    (retract s.series old.labels).Perm ((without s.entries k).map (·.series)) := by
  obtain ⟨hmem, rfl⟩ := hkeys.get?_eq_some_iff.1 hold
  have hperm : s.series.Perm (old.series :: (without s.entries old.key).map (·.series)) :=
    List.Perm.trans h ((hkeys.entries_perm hold).map _)
  refine (hperm.filter _).trans (List.Perm.of_eq ?_)
  have hgone : (old.series.labels.identity != old.labels.identity) = false := bne_self_eq_false _
  rw [List.filter_cons, hgone, if_neg Bool.false_ne_true, List.filter_eq_self]
  intro t ht
  obtain ⟨f, hf, rfl⟩ := List.mem_map.1 ht
  obtain ⟨hfmem, hkey⟩ := mem_without.1 hf
  exact bne_iff_ne.2 (hids f hfmem old hmem hkey)

/-- Publishing an entry whose identity no other entry has adds its series. -/
lemma publish_perm {series : List Series} {entries : List Entry} {e : Entry}
    (h : series.Perm (entries.map (·.series)))
    (hids : ∀ f ∈ entries, f.labels.identity ≠ e.labels.identity) :
    (publish series e.series).Perm ((entries ++ [e]).map (·.series)) := by
  have hfree : isPublished series e.series.labels = false := by
    rw [Bool.eq_false_iff, Ne, isPublished_iff]
    rintro ⟨t, ht, hid⟩
    obtain ⟨f, hf, rfl⟩ := List.mem_map.1 (h.mem_iff.1 ht)
    exact hids f hf hid
  rw [publish_of_not_isPublished hfree, List.map_append]
  exact h.append_right _

/-- Publishing an entry that takes the place of one with the same labels gives its series the new
value. -/
lemma republish_perm {series : List Series} {entries : List Entry} {old e : Entry}
    (h : series.Perm ((old :: entries).map (·.series))) (hlabels : old.labels = e.labels)
    (hids : ∀ f ∈ entries, f.labels.identity ≠ e.labels.identity) :
    (publish series e.series).Perm ((entries ++ [e]).map (·.series)) := by
  have hold : old.series ∈ series := h.mem_iff.2 List.mem_cons_self
  have hid : old.series.labels.identity = e.series.labels.identity := congrArg Labels.identity hlabels
  have hthere : isPublished series e.series.labels = true := isPublished_iff.2 ⟨old.series, hold, hid⟩
  rw [publish_of_isPublished hthere]
  refine (h.map _).trans ?_
  rw [List.map_cons, List.map_cons, List.map_append, List.map_singleton]
  have hnew : (if (old.series.labels.identity == e.series.labels.identity) = true
      then { old.series with isLatest := e.series.isLatest } else old.series) = e.series := by
    rw [if_pos (beq_iff_eq.2 hid), Entry.series, Entry.series, hlabels]
  have hrest : (entries.map (·.series)).map (fun t =>
      if (t.labels.identity == e.series.labels.identity) = true
      then { t with isLatest := e.series.isLatest } else t) = entries.map (·.series) := by
    rw [List.map_map]
    refine List.map_congr_left fun f hf => ?_
    exact if_neg fun hfe => hids f hf (beq_iff_eq.1 hfe)
  rw [hnew, hrest]
  exact (List.perm_append_singleton _ _).symm

/-! ## Changes -/

/-- The identity of an entry that is added is that of no entry at another place. -/
lemma IdentitiesDistinct.of_apply_add {s : Store} {e : Entry}
    (h : (s.apply (.add e)).IdentitiesDistinct) :
    ∀ f ∈ without s.entries e.key, f.labels.identity ≠ e.labels.identity := by
  intro f hf
  have hkey := (mem_without.1 hf).2
  exact h f (List.mem_append_left _ hf) e (List.mem_append_right _ List.mem_cons_self) hkey

/-- A change between stores in which identities are distinct keeps the correspondence. -/
lemma Corresponds.apply {s : Store} (h : s.Corresponds) (hkeys : s.KeysDistinct)
    (hids : s.IdentitiesDistinct) {c : Change} (hids' : (s.apply c).IdentitiesDistinct) :
    (s.apply c).Corresponds := by
  unfold Corresponds
  cases c with
  | remove k =>
    simp only [Store.apply, seriesKept, displaced?]
    cases hget : s.get? k with
    | none => rw [without_eq_self_of_get?_eq_none hget]; exact h
    | some old => exact h.retract_perm hkeys hids hget
  | add e =>
    have hfresh := hids'.of_apply_add
    simp only [Store.apply, seriesKept, displaced?]
    cases hget : s.get? e.key with
    | none =>
      rw [without_eq_self_of_get?_eq_none hget] at hfresh ⊢
      exact publish_perm h hfresh
    | some old =>
      by_cases hlabels : old.labels = e.labels
      · rw [Option.filter_some, if_neg (by simpa using hlabels)]
        exact republish_perm (List.Perm.trans h ((hkeys.entries_perm hget).map _)) hlabels hfresh
      · rw [Option.filter_some, if_pos (by simpa using hlabels)]
        exact publish_perm (h.retract_perm hkeys hids hget) hfresh

/-- A run of changes through stores in which identities are distinct ends where entries and series
correspond. -/
theorem corresponds_ofChanges {changes : List Change}
    (h : ∀ cs, cs <+: changes → (ofChanges cs).IdentitiesDistinct) :
    (ofChanges changes).Corresponds := by
  induction changes using List.reverseRecOn with
  | nil => exact List.Perm.refl _
  | append_singleton cs c ih =>
    have hprefix : cs <+: cs ++ [c] := List.prefix_append cs [c]
    have hcs : (ofChanges cs).Corresponds := ih fun ds hds => h ds (hds.trans hprefix)
    have hlast := h (cs ++ [c]) List.prefix_rfl
    rw [ofChanges, applyAll_append] at hlast ⊢
    exact hcs.apply (keysDistinct_ofChanges cs) (h cs hprefix) hlast

/-! ## What corresponding tables show -/

/-- A series is published exactly if it is that of the entry at some place. -/
lemma Corresponds.mem_series_iff {s : Store} (h : s.Corresponds) (hkeys : s.KeysDistinct) {t : Series} :
    t ∈ s.series ↔ ∃ k e, s.get? k = some e ∧ e.series = t := by
  rw [h.mem_iff, List.mem_map]
  constructor
  · rintro ⟨e, he, rfl⟩
    exact ⟨e.key, e, hkeys.get?_eq_some_iff.2 ⟨he, rfl⟩, rfl⟩
  · rintro ⟨k, e, hget, rfl⟩
    exact ⟨e, (hkeys.get?_eq_some_iff.1 hget).1, rfl⟩

/-- No series has the labels of an entry that is gone, or that another one with other labels has taken
the place of. -/
lemma Corresponds.not_mem_series_of_gone {s : Store} (h : s.Corresponds) (hkeys : s.KeysDistinct)
    {old : Entry} (hgone : ∀ e, s.get? old.key = some e → e.labels ≠ old.labels) {t : Series}
    (ht : t ∈ s.series) : t.labels ≠ old.labels := by
  obtain ⟨k, e, hget, rfl⟩ := (h.mem_series_iff hkeys).1 ht
  obtain ⟨-, rfl⟩ := hkeys.get?_eq_some_iff.1 hget
  intro hlabels
  have hkey : e.key = old.key := key_eq_of_labels_eq hlabels
  exact hgone e (hkey ▸ hget) hlabels

/-- The series that a change takes back is there. -/
lemma Corresponds.alreadyAbsent?_eq_none {s : Store} (h : s.Corresponds) (hkeys : s.KeysDistinct)
    (c : Change) : s.alreadyAbsent? c = none := by
  unfold alreadyAbsent?
  rw [Option.filter_eq_none_iff]
  intro old hold
  have hget : ∃ k, s.get? k = some old := by
    cases c with
    | add e => exact ⟨e.key, (Option.filter_eq_some_iff.1 hold).1⟩
    | remove k => exact ⟨k, hold⟩
  obtain ⟨k, hget⟩ := hget
  have hmem : old.series ∈ s.series := (h.mem_series_iff hkeys).2 ⟨k, old, hget, rfl⟩
  have hthere : isPublished s.series old.labels = true :=
    isPublished_iff.2 ⟨old.series, hmem, rfl⟩
  simp [hthere]

/-- **Correspondence.**  Along a run of changes from the store without entries, through stores in which
entries at different places have different identities, the published series are at every moment one for
each entry, with the label values of the entry and the value one or zero; no other labels are published,
and no change misses the series that it takes back. -/
theorem series_perm_entries_of_identitiesDistinct (changes : List Change)
    (h : ∀ cs, cs <+: changes → (ofChanges cs).IdentitiesDistinct) :
    (∀ cs, cs <+: changes →
      ((ofChanges cs).series.map fun t => (t.labels.values, t.isLatest.toNat)).Perm
        ((ofChanges cs).entries.map fun e =>
          ([e.key.pod.namespaceName, e.key.pod.name, e.key.container, e.verdict.image,
            e.verdict.currentVersion, e.verdict.latestVersion, e.verdict.os, e.verdict.architecture],
            if e.verdict.isLatest then 1 else 0)) ∧
      (ofChanges cs).series.length = (ofChanges cs).size ∧
      ∀ old : Entry, (∀ e, (ofChanges cs).get? old.key = some e → e.labels ≠ old.labels) →
        ∀ t ∈ (ofChanges cs).series, t.labels ≠ old.labels) ∧
    ∀ cs c, cs ++ [c] <+: changes → (ofChanges cs).alreadyAbsent? c = none := by
  have hcorr : ∀ cs, cs <+: changes → (ofChanges cs).Corresponds := fun cs hcs =>
    corresponds_ofChanges fun ds hds => h ds (hds.trans hcs)
  refine ⟨fun cs hcs => ⟨?_, ?_, ?_⟩, fun cs c hcs => ?_⟩
  · refine ((hcorr cs hcs).map _).trans (List.Perm.of_eq ?_)
    rw [List.map_map]
    refine List.map_congr_left fun e _ => Prod.ext rfl ?_
    cases hlatest : e.verdict.isLatest <;> simp [Entry.series, hlatest]
  · rw [(hcorr cs hcs).length_eq, List.length_map, size]
  · intro old hgone t ht
    exact (hcorr cs hcs).not_mem_series_of_gone (keysDistinct_ofChanges cs) hgone ht
  · have hprefix : cs <+: changes := (List.prefix_append cs [c]).trans hcs
    exact (hcorr cs hprefix).alreadyAbsent?_eq_none (keysDistinct_ofChanges cs) c

/-- The container `app` of the pod `web-1`, with given versions. -/
def versionedApp (current latest : String) (isLatest : Bool) : Entry where
  key := ⟨⟨"apps", "web-1"⟩, "app"⟩
  verdict := ⟨"repo/img", current, latest, isLatest, "linux", "amd64"⟩

/-- The versions `1.2` and `0` are replaced by `1.` and `20`, which are the same when written one after
the other; then the image becomes the latest one. -/
def relabelling : List Change :=
  [.add (versionedApp "1.2" "0" false), .add (versionedApp "1." "20" false),
    .add (versionedApp "1." "20" true)]

/-- Of a container that is relabelled within one identity, one series is left, with the new labels and
the new value. -/
theorem series_relabelling :
    (∀ cs, cs <+: relabelling → (ofChanges cs).IdentitiesDistinct) ∧
    ((ofChanges relabelling).series.map fun t => (t.labels.values, t.isLatest.toNat)) =
      [(["apps", "web-1", "app", "repo/img", "1.", "20", "linux", "amd64"], 1)] := by
  have hids : ∀ cs ∈ relabelling.inits, (ofChanges cs).IdentitiesDistinct := by decide +kernel
  have hrun : ∀ cs, cs <+: relabelling → (ofChanges cs).IdentitiesDistinct := fun cs hcs =>
    hids cs ((List.mem_inits cs relabelling).2 hcs)
  have hentries : (ofChanges relabelling).entries = [versionedApp "1." "20" true] := by
    decide +kernel
  have hperm := ((series_perm_entries_of_identitiesDistinct relabelling hrun).1 _
    List.prefix_rfl).1
  rw [hentries] at hperm
  exact ⟨hrun, List.perm_singleton.1 hperm⟩

end Freshness.Store
