import Freshness.Proofs.Store.Correspondence
import Freshness.Proofs.Store.Order

/-!
# The last change at each place decides

Two runs of changes agree (`Agree`) if the last change at each place leaves the same there: it adds the
same entry in both, or in each of them it removes what was there, or there is none.  Runs that agree lead to
stores that cannot be told apart, as long as entries at different places have different identities all along
(`render_ofChanges_of_agree`): the entries follow from the last changes, the series from the entries, and the
text from the series.

Some laws give runs that agree: a change that is made again at once changes nothing more (`agree_repeat`), a
change takes the effect of an earlier one at its place away (`agree_absorb`), changes at different places
can be made in either order (`agree_swap`), and where there is no entry none can be removed (`agree_remove`).
-/

namespace Freshness.Store

/-- Two runs of changes agree if the last change at each place leaves the same there. -/
def Agree (cs ds : List Change) : Prop :=
  ∀ k, (lastAt k cs).bind Change.entry? = (lastAt k ds).bind Change.entry?

/-! ## Runs that agree -/

/-- Runs agree with the same runs as runs that agree with them. -/
lemma Agree.trans {cs ds es : List Change} (h : Agree cs ds) (h' : Agree ds es) : Agree cs es := by
  intro k
  exact (h k).trans (h' k)

/-- Runs that agree still do after further changes. -/
lemma Agree.append {cs ds : List Change} (h : Agree cs ds) (es : List Change) :
    Agree (cs ++ es) (ds ++ es) := by
  intro k
  rw [lastAt_append, lastAt_append]
  cases lastAt k es with
  | none =>
    rw [Option.none_or, Option.none_or]
    exact h k
  | some c => rfl

/-- An earlier change at the same place makes no difference. -/
lemma agree_absorb (cs : List Change) {c d : Change} (h : c.key = d.key) :
    Agree (cs ++ [c, d]) (cs ++ [d]) := by
  intro k
  have hsplit : cs ++ [c, d] = cs ++ [c] ++ [d] := by rw [List.append_assoc]; rfl
  rw [hsplit, lastAt_append, lastAt_append, lastAt_append, lastAt_singleton, lastAt_singleton]
  by_cases hk : d.key = k
  · rw [if_pos hk, Option.some_or, Option.some_or]
  · rw [if_neg hk, if_neg (h ▸ hk), Option.none_or, Option.none_or]

/-- A change that is made again at once changes nothing more. -/
lemma agree_repeat (cs : List Change) (c : Change) : Agree (cs ++ [c, c]) (cs ++ [c]) :=
  agree_absorb cs rfl

/-- Changes at different places can be made in either order. -/
lemma agree_swap (cs : List Change) {c d : Change} (h : c.key ≠ d.key) :
    Agree (cs ++ [c, d]) (cs ++ [d, c]) := by
  intro k
  have hsplit : ∀ a b : Change, cs ++ [a, b] = cs ++ [a] ++ [b] := by
    intro a b
    rw [List.append_assoc]
    rfl
  rw [hsplit, hsplit, lastAt_append, lastAt_append, lastAt_append, lastAt_append, lastAt_singleton,
    lastAt_singleton]
  by_cases hk : c.key = k
  · have hd : d.key ≠ k := fun hd => h (hk.trans hd.symm)
    rw [if_pos hk, if_neg hd, Option.none_or, Option.none_or]
  · rw [if_neg hk, Option.none_or, Option.none_or]

/-- A place holds what the last change there leaves. -/
lemma get?_ofChanges (changes : List Change) (k : Key) :
    (ofChanges changes).get? k = (lastAt k changes).bind Change.entry? := by
  rw [ofChanges, get?_applyAll]
  cases lastAt k changes <;> rfl

/-- Where there is no entry none can be removed. -/
lemma agree_remove {cs : List Change} {k : Key} (h : (ofChanges cs).get? k = none) :
    Agree (cs ++ [.remove k]) cs := by
  intro l
  have hkey : (Change.remove k).key = k := rfl
  rw [get?_ofChanges] at h
  rw [lastAt_append, lastAt_singleton, hkey]
  by_cases hl : k = l
  · rw [if_pos hl, ← hl, h, Option.some_or]
    rfl
  · rw [if_neg hl, Option.none_or]

/-! ## What runs that agree lead to -/

/-- Runs that agree lead to the same entries. -/
lemma Agree.entries_perm {cs ds : List Change} (h : Agree cs ds) :
    (ofChanges cs).entries.Perm (ofChanges ds).entries := by
  refine (keysDistinct_ofChanges cs).perm_of_get?_eq (keysDistinct_ofChanges ds) fun k => ?_
  rw [get?_ofChanges, get?_ofChanges]
  exact h k

/-- Stores whose series correspond to the same entries have the same series. -/
lemma Corresponds.series_perm {s s' : Store} (h : s.Corresponds) (h' : s'.Corresponds)
    (hentries : s.entries.Perm s'.entries) : s.series.Perm s'.series :=
  List.Perm.trans h ((hentries.map _).trans (List.Perm.symm h'))

/-- **Convergence.**  Let two runs of changes lead from the store without entries through stores in which
entries at different places have different identities.  If the last change at each place leaves the same in
both, then both lead to the same entries, the same series with the same labels and values, and the same
text. -/
theorem render_ofChanges_of_agree {cs ds : List Change} (h : Agree cs ds)
    (hcs : ∀ part, part <+: cs → (ofChanges part).IdentitiesDistinct)
    (hds : ∀ part, part <+: ds → (ofChanges part).IdentitiesDistinct) :
    (∀ k, (ofChanges cs).get? k = (ofChanges ds).get? k) ∧
    (ofChanges cs).entries.Perm (ofChanges ds).entries ∧
    (ofChanges cs).series.Perm (ofChanges ds).series ∧
    (ofChanges cs).render = (ofChanges ds).render := by
  have hentries := h.entries_perm
  have hseries : (ofChanges cs).series.Perm (ofChanges ds).series :=
    (corresponds_ofChanges hcs).series_perm (corresponds_ofChanges hds) hentries
  have hlabels : ((ofChanges cs).series.map (·.labels)).Nodup := (owned_ofChanges cs).nodup_labels
  refine ⟨fun k => ?_, hentries, hseries, render_eq_of_perm hlabels hseries⟩
  rw [get?_ofChanges, get?_ofChanges]
  exact h k

/-- An image is found outdated, then the latest one twice in a row, while another container is checked and a
third one, of which nothing is known, is removed. -/
def detour : List Change :=
  [.add (versionedApp "1.2" "0" false), .add (outdatedIn "web-2" "app"),
    .add (versionedApp "1." "20" true), .add (versionedApp "1." "20" true)]
  ++ [.remove (outdatedIn "web-3" "app").key]

/-- What is found in the end, in the other order. -/
def direct : List Change := [.add (versionedApp "1." "20" true), .add (outdatedIn "web-2" "app")]

/-- A change that is replaced, with another one in between, agrees with the last of its kind. -/
lemma agree_replace {a b c : Change} (hsame : a.key = c.key) (hother : a.key ≠ b.key) :
    Agree [a, b, c, c] [c, b] := by
  have hswap : Agree [a, b, c, c] [b, a, c, c] := (agree_swap [] hother).append [c, c]
  have habsorb : Agree [b, a, c, c] [b, c, c] := (agree_absorb [b] hsame).append [c]
  have hrepeat : Agree [b, c, c] [b, c] := agree_repeat [b] c
  have hback : Agree [b, c] [c, b] := agree_swap [] fun hkey => hother (hsame.trans hkey.symm)
  exact hswap.trans (habsorb.trans (hrepeat.trans hback))

/-- The detour leads to the two series, and the text, of the direct way. -/
theorem render_detour :
    Agree detour direct ∧ (∀ part, part <+: detour → (ofChanges part).IdentitiesDistinct) ∧
    (∀ part, part <+: direct → (ofChanges part).IdentitiesDistinct) ∧
    (ofChanges detour).series.Perm (ofChanges direct).series ∧
    (ofChanges direct).series.length = 2 ∧ (ofChanges detour).render = (ofChanges direct).render := by
  have hagree : Agree detour direct :=
    (agree_remove (by decide +kernel)).trans (agree_replace (by decide) (by decide))
  have hdetour : ∀ part ∈ detour.inits, (ofChanges part).IdentitiesDistinct := by decide +kernel
  have hdirect : ∀ part ∈ direct.inits, (ofChanges part).IdentitiesDistinct := by decide +kernel
  have hcs : ∀ part, part <+: detour → (ofChanges part).IdentitiesDistinct := fun part hpart =>
    hdetour part ((List.mem_inits part detour).2 hpart)
  have hds : ∀ part, part <+: direct → (ofChanges part).IdentitiesDistinct := fun part hpart =>
    hdirect part ((List.mem_inits part direct).2 hpart)
  obtain ⟨-, -, hseries, hrender⟩ := render_ofChanges_of_agree hagree hcs hds
  exact ⟨hagree, hcs, hds, hseries, by decide +kernel, hrender⟩

end Freshness.Store
