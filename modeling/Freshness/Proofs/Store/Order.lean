import Freshness.Proofs.Store.Ownership
import Mathlib.Data.List.Lex
import Mathlib.Data.String.Basic

/-!
# The order of the lines

The exposition shows the series in the order of their label values.  The label values tell the labels, so
that series with different labels have different places in this order (`labels_eq_of_orderKey_eq`).  What
is shown therefore does not depend on the order in which the series were published: the series of a store
can be put in order in one way only (`inOrder_eq_of_perm`), and stores with the same series show the same
text (`render_eq_of_perm`).
-/

namespace Freshness.Store

namespace Exposition

/-- The label values that lines are ordered by tell the labels. -/
lemma labels_eq_of_orderKey_eq {s t : Series} (h : orderKey s = orderKey t) : s.labels = t.labels := by
  obtain ⟨⟨_, _, _, _, _, _, _, _⟩, _⟩ := s
  obtain ⟨⟨_, _, _, _, _, _, _, _⟩, _⟩ := t
  simp only [orderKey, Labels.named, List.map_cons, List.map_nil, List.cons.injEq] at h
  obtain ⟨rfl, rfl, rfl, rfl, rfl, rfl, rfl, rfl, -⟩ := h
  rfl

/-- Putting series in order loses none and adds none. -/
lemma inOrder_perm (series : List Series) : (inOrder series).Perm series :=
  List.mergeSort_perm series _

/-- Of two series in order the later one does not stand before the earlier one. -/
lemma pairwise_inOrder (series : List Series) :
    (inOrder series).Pairwise fun s t => orderKey s ≤ orderKey t := by
  have htrans : ∀ s t u : Series, (!decide (orderKey t < orderKey s)) = true →
      (!decide (orderKey u < orderKey t)) = true → (!decide (orderKey u < orderKey s)) = true := by
    intro s t u hst htu
    simp only [Bool.not_eq_true', decide_eq_false_iff_not, not_lt] at hst htu ⊢
    exact hst.trans htu
  have htotal : ∀ s t : Series,
      (!decide (orderKey t < orderKey s) || !decide (orderKey s < orderKey t)) = true := by
    intro s t
    simp only [Bool.or_eq_true, Bool.not_eq_true', decide_eq_false_iff_not, not_lt]
    exact le_total _ _
  refine (List.pairwise_mergeSort htrans htotal series).imp fun {s t} hst => ?_
  simpa only [Bool.not_eq_true', decide_eq_false_iff_not, not_lt] using hst

/-- Series with labels of their own can be put in order in one way only. -/
lemma inOrder_eq_of_perm {series series' : List Series} (hlabels : (series.map (·.labels)).Nodup)
    (h : series.Perm series') : inOrder series = inOrder series' := by
  have hperm : (inOrder series).Perm (inOrder series') :=
    (inOrder_perm series).trans (h.trans (inOrder_perm series').symm)
  refine hperm.eq_of_pairwise ?_ (pairwise_inOrder series) (pairwise_inOrder series')
  intro s t hs ht hst hts
  have hmem : s ∈ series := (inOrder_perm series).mem_iff.1 hs
  have hmem' : t ∈ series := h.mem_iff.2 ((inOrder_perm series').mem_iff.1 ht)
  exact List.inj_on_of_nodup_map hlabels hmem hmem' (labels_eq_of_orderKey_eq (le_antisymm hst hts))

end Exposition

open Exposition

/-- Stores with the same series show the same text, if the series have labels of their own. -/
lemma render_eq_of_perm {s s' : Store} (hlabels : (s.series.map (·.labels)).Nodup)
    (h : s.series.Perm s'.series) : s.render = s'.render := by
  unfold render
  rw [h.isEmpty_eq, inOrder_eq_of_perm hlabels h]

end Freshness.Store
