import Freshness.Proofs.Store.Order
import Freshness.Proofs.Text.Octets
import Freshness.Store.Exposition.Sample

/-!
# Reading the exposition back

The text that shows the series of a store is read line by line: lines that begin with a number sign are about
the gauge, and every other line is a sample, which stands for one series (`readSeries`).  Since quotes,
backslashes and line breaks are escaped, a label value cannot end its quotes or its line.  So each sample line
reads as the series that it was written for (`series?_of_sampleLine`), and the whole text as the series of the
store in their order (`readSeries_render`).

In a store that changes lead to, the series have labels of their own, so that each of them comes before the
next one in the order of the octets of the label values, and the text tells which series there are
(`readSeries_render_ofChanges`).
-/

namespace Freshness.Store

namespace Exposition

/-! ## Series from samples -/

/-- Whether an image is the latest one, as the number of a sample tells it. -/
def readFlag? : String → Option Bool
  | "1" => some true
  | "0" => some false
  | _ => none

/-- The label values of a series, from eight labels that have its names in any order. -/
def readLabelSet? (labels : List (String × String)) : Option Labels := do
  guard (labels.length = 8)
  return {
    namespaceName := ← labels.lookup "namespace"
    pod := ← labels.lookup "pod"
    container := ← labels.lookup "container"
    image := ← labels.lookup "image"
    currentVersion := ← labels.lookup "current_version"
    latestVersion := ← labels.lookup "latest_version"
    os := ← labels.lookup "os"
    architecture := ← labels.lookup "arch" }

/-- The series for which a sample of the gauge stands. -/
def Sample.series? (s : Sample) : Option Series := do
  guard (s.name = gaugeName)
  return ⟨← readLabelSet? s.labels, ← readFlag? s.value⟩

/-- The sample that shows a series stands for it. -/
@[simp] lemma series?_sampleOf (s : Series) : (sampleOf s).series? = some s := by
  obtain ⟨⟨_, _, _, _, _, _, _, _⟩, isLatest⟩ := s
  cases isLatest <;> rfl

/-! ## Lines -/

/-- The sample lines of a text. -/
def sampleLines (text : String) : List (List Char) :=
  (linesOf text.toList).filter fun line => line.head? != some '#'

/-- The series for which the sample lines of a text stand, one for each line. -/
def readSeries (text : String) : Option (List Series) :=
  (sampleLines text).mapM fun line => (readSample line).bind Sample.series?

/-- A line ends at its line break. -/
lemma linesOf_append {line : List Char} (h : '\n' ∉ line) (rest : List Char) :
    linesOf (line ++ '\n' :: rest) = line :: linesOf rest := by
  induction line with
  | nil => simp [linesOf]
  | cons c line ih =>
    obtain ⟨hc, hline⟩ : '\n' ≠ c ∧ '\n' ∉ line := by simpa using h
    rw [List.cons_append, linesOf, if_neg (Ne.symm hc), ih hline]

/-- Lines that are written one after the other are read one after the other. -/
lemma linesOf_flatMap {lines : List (List Char)} (h : ∀ line ∈ lines, '\n' ∉ line) :
    linesOf (lines.flatMap fun line => line ++ ['\n']) = lines := by
  induction lines with
  | nil => rfl
  | cons line lines ih =>
    obtain ⟨hline, hlines⟩ := List.forall_mem_cons.1 h
    rw [List.flatMap_cons, List.append_assoc, List.singleton_append, linesOf_append hline, ih hlines]

/-! ## Labels -/

/-- A name is read up to the first character that cannot stand in a name. -/
lemma takeWhile_dropWhile_isNameChar {name : List Char} {c : Char}
    (hname : ∀ a ∈ name, isNameChar a = true) (hc : isNameChar c = false) (rest : List Char) :
    (name ++ c :: rest).takeWhile isNameChar = name ∧
      (name ++ c :: rest).dropWhile isNameChar = c :: rest := by
  have hnot : ¬isNameChar c = true := by rw [hc]; exact Bool.false_ne_true
  rw [List.takeWhile_append_of_pos hname, List.dropWhile_append_of_pos hname,
    List.takeWhile_cons_of_neg hnot, List.dropWhile_cons_of_neg hnot, List.append_nil]
  exact ⟨rfl, rfl⟩

/-- The names of the labels are made of characters that can stand in a name. -/
lemma isNameChar_of_mem_named (l : Labels) : ∀ p ∈ l.named, ∀ a ∈ p.1.toList, isNameChar a = true := by
  have hnames : (l.named.map (·.1)).all (fun name => name.toList.all isNameChar) = true := by
    simp only [Labels.named, List.map_cons, List.map_nil]
    decide
  intro p hp
  exact List.all_eq_true.1 (List.all_eq_true.1 hnames p.1 (List.mem_map_of_mem hp))

lemma labelsText_singleton (name value : String) : labelsText [(name, value)] = labelText name value := by
  simp [labelsText]

lemma labelsText_cons_cons (name value : String) (p : String × String) (labels : List (String × String)) :
    labelsText ((name, value) :: p :: labels) = labelText name value ++ ',' :: labelsText (p :: labels) := by
  simp [labelsText, List.intercalate_cons_cons]

/-- A label is read up to its closing quote.  After it a comma says that there are more labels, and a brace that
there are none. -/
lemma readLabels_labelText {name : String} (hname : ∀ a ∈ name.toList, isNameChar a = true) (value : String)
    (n : Nat) (rest : List Char) :
    readLabels (n + 1) (labelText name value ++ rest) =
      match rest with
      | ',' :: rest => (readLabels n rest).map fun (labels, rest) => ((name, value) :: labels, rest)
      | '\x7d' :: rest => some ([(name, value)], rest)
      | _ => none := by
  -- the value is taken for the text of its characters, since this is what is read
  obtain ⟨v, rfl⟩ : ∃ v, value = String.ofList v := ⟨value.toList, String.ofList_toList.symm⟩
  have htext : labelText name (String.ofList v) ++ rest =
      name.toList ++ '=' :: ('"' :: (escaped v ++ '"' :: rest)) := by
    simp [labelText]
  have heq : isNameChar '=' = false := rfl
  obtain ⟨htake, hdrop⟩ := takeWhile_dropWhile_isNameChar hname heq ('"' :: (escaped v ++ '"' :: rest))
  rw [htext, readLabels, htake, hdrop]
  show (readValue (escaped v ++ '"' :: rest)).bind _ = _
  rewrite [readValue_escaped, Option.bind_some, String.ofList_toList]
  rfl

/-- Labels read back as they are, whatever follows the closing brace. -/
lemma readLabels_labelsText {labels : List (String × String)} (hne : labels ≠ [])
    (hnames : ∀ p ∈ labels, ∀ a ∈ p.1.toList, isNameChar a = true) {n : Nat} (hn : labels.length ≤ n)
    (rest : List Char) :
    readLabels n (labelsText labels ++ '\x7d' :: rest) = some (labels, rest) := by
  induction labels generalizing n with
  | nil => exact absurd rfl hne
  | cons p labels ih =>
    obtain ⟨name, value⟩ := p
    obtain ⟨hname, htail⟩ := List.forall_mem_cons.1 hnames
    rw [List.length_cons] at hn
    obtain ⟨m, rfl⟩ := Nat.exists_eq_add_one_of_ne_zero (Nat.ne_zero_of_lt hn)
    cases labels with
    | nil =>
      rw [labelsText_singleton, readLabels_labelText hname]
      rfl
    | cons q labels =>
      have hmore := ih (List.cons_ne_nil q labels) htail (Nat.le_of_succ_le_succ hn)
      rw [labelsText_cons_cons, List.append_assoc, List.cons_append, readLabels_labelText hname]
      simp only [hmore, Option.map_some]

/-- Labels are written without a line break. -/
lemma newline_not_mem_labelsText {labels : List (String × String)}
    (hnames : ∀ p ∈ labels, '\n' ∉ p.1.toList) : '\n' ∉ labelsText labels := by
  induction labels with
  | nil => exact List.not_mem_nil
  | cons p labels ih =>
    obtain ⟨name, value⟩ := p
    obtain ⟨hname, htail⟩ := List.forall_mem_cons.1 hnames
    have hlabel : '\n' ∉ labelText name value := by
      simp [labelText, hname, newline_not_mem_escaped]
    cases labels with
    | nil => rwa [labelsText_singleton]
    | cons q labels =>
      rw [labelsText_cons_cons]
      simp [hlabel, ih htail]

/-! ## Sample lines -/

/-- The line of a series reads as the sample that shows it. -/
lemma readSample_sampleLine (s : Series) : readSample (sampleLine s) = some (sampleOf s) := by
  have hgauge : gaugeName.toList.all isNameChar = true := by decide
  have hbrace : isNameChar '\x7b' = false := rfl
  let value := if s.isLatest then '1' else '0'
  have hline : sampleLine s =
      gaugeName.toList ++ '\x7b' :: (labelsText s.labels.named ++ '\x7d' :: [' ', value]) := by
    simp [sampleLine, value]
  have hlabels : readLabels (sampleLine s).length (labelsText s.labels.named ++ '\x7d' :: [' ', value]) =
      some (s.labels.named, [' ', value]) := by
    refine readLabels_labelsText (List.cons_ne_nil _ _) (isNameChar_of_mem_named s.labels) ?_ _
    simp [sampleLine, Labels.named, gaugeName]
  obtain ⟨htake, hdrop⟩ := takeWhile_dropWhile_isNameChar (List.all_eq_true.1 hgauge) hbrace
    (labelsText s.labels.named ++ '\x7d' :: [' ', value])
  rw [hline] at hlabels
  rw [hline, readSample, htake, hdrop]
  simp only [hlabels, Option.bind_some]
  cases h : s.isLatest <;> simp [sampleOf, value, h]

/-- The line of a series reads as this series. -/
lemma series?_of_sampleLine (s : Series) : (readSample (sampleLine s)).bind Sample.series? = some s := by
  rw [readSample_sampleLine, Option.bind_some, series?_sampleOf]

/-- An image that is called like the end of a line and one more line is read as such. -/
example :
    let image := "a\",os=\"\\\"\x7d 1\nversion_checker_is_latest_version\x7barch=\""
    let s : Series := ⟨⟨"default", "web-0", "app", image, "1.0", "1.1", "linux", "amd64"⟩, false⟩
    (linesOf (sampleLine s)).length = 1 ∧ (readSample (sampleLine s)).bind Sample.series? = some s := by
  decide +kernel

/-- The line of a series has no line break. -/
lemma newline_not_mem_sampleLine (s : Series) : '\n' ∉ sampleLine s := by
  have hgauge : '\n' ∉ gaugeName.toList := by decide
  have hlabels : '\n' ∉ labelsText s.labels.named := by
    refine newline_not_mem_labelsText fun p hp hmem => ?_
    exact absurd (isNameChar_of_mem_named s.labels p hp _ hmem) (by decide)
  have hvalue : '\n' ≠ if s.isLatest then '1' else '0' := by
    cases s.isLatest <;> decide
  simp [sampleLine, hgauge, hlabels, hvalue]

/-- The line of a series begins with the name of the gauge, so it is no line about the gauge. -/
lemma head?_sampleLine (s : Series) : (sampleLine s).head? = some 'v' := rfl

/-! ## The whole text -/

/-- The two lines about the gauge. -/
def headingLines : List (List Char) :=
  [("# HELP " ++ gaugeName
      ++ " Whether the container image is running the latest version (1) or not (0)").toList,
    ("# TYPE " ++ gaugeName ++ " gauge").toList]

lemma toList_heading : heading.toList = headingLines.flatMap fun line => line ++ ['\n'] := by
  have hhelp : " Whether the container image is running the latest version (1) or not (0)\n" =
      " Whether the container image is running the latest version (1) or not (0)" ++ "\n" := by decide
  have htype : " gauge\n" = " gauge" ++ "\n" := by decide
  have hbreak : "\n".toList = ['\n'] := rfl
  simp only [heading, headingLines, hhelp, htype, hbreak, String.toList_append, List.flatMap_cons,
    List.flatMap_nil, List.append_nil, List.append_assoc]

/-- A text that shows series is made of the lines about the gauge and the lines of the series. -/
lemma toList_render {s : Store} (h : s.series.isEmpty = false) :
    s.render.toList =
      (headingLines ++ (inOrder s.series).map sampleLine).flatMap fun line => line ++ ['\n'] := by
  rw [render, h, if_neg Bool.false_ne_true, String.toList_append, String.toList_ofList, toList_heading,
    List.flatMap_append, List.flatMap_map]

/-- The sample lines of the text are the lines of the series in their order. -/
lemma sampleLines_render (s : Store) : sampleLines s.render = (inOrder s.series).map sampleLine := by
  cases h : s.series.isEmpty with
  | true =>
    rw [render, h, if_pos rfl, List.isEmpty_iff.1 h, inOrder, List.mergeSort_nil]
    rfl
  | false =>
    have hnew : ∀ line ∈ headingLines ++ (inOrder s.series).map sampleLine, '\n' ∉ line := by
      intro line hline
      rcases List.mem_append.1 hline with hheading | hsample
      · have hall : ∀ line ∈ headingLines, '\n' ∉ line := by decide +kernel
        exact hall line hheading
      · obtain ⟨t, -, rfl⟩ := List.mem_map.1 hsample
        exact newline_not_mem_sampleLine t
    have hheading : headingLines.filter (fun line => line.head? != some '#') = [] := by decide +kernel
    have hsamples : ((inOrder s.series).map sampleLine).filter (fun line => line.head? != some '#') =
        (inOrder s.series).map sampleLine := by
      refine List.filter_eq_self.2 fun line hline => ?_
      obtain ⟨t, -, rfl⟩ := List.mem_map.1 hline
      rw [head?_sampleLine]
      decide
    rw [sampleLines, toList_render h, linesOf_flatMap hnew, List.filter_append, hheading, hsamples,
      List.nil_append]

/-- The text of a store reads as its series, in the order of their lines. -/
lemma readSeries_render (s : Store) : readSeries s.render = some (inOrder s.series) := by
  rw [readSeries, sampleLines_render]
  induction inOrder s.series with
  | nil => rfl
  | cons t series ih =>
    rw [List.map_cons, List.mapM_cons, series?_of_sampleLine, ih]
    rfl

/-- The labels stand in the order of their names. -/
lemma pairwise_named (l : Labels) : (l.named.map (·.1)).Pairwise (· < ·) := by
  simp only [Labels.named, List.map_cons, List.map_nil]
  decide

/-- The octets of the label values in the order of the label names. -/
def octetKey (s : Series) : List (List UInt8) := (orderKey s).map fun v => Text.octets v.toList

/-- Series with labels of their own stand in the order of the octets of their label values. -/
lemma pairwise_octetKey_inOrder {series : List Series} (hlabels : (series.map (·.labels)).Nodup) :
    (inOrder series).Pairwise fun s t => octetKey s < octetKey t := by
  have hnodup : ((inOrder series).map (·.labels)).Nodup :=
    ((inOrder_perm series).map _).nodup_iff.2 hlabels
  have hdistinct : (inOrder series).Pairwise fun s t => s.labels ≠ t.labels := List.pairwise_map.1 hnodup
  refine ((pairwise_inOrder series).and hdistinct).imp fun {s t} hst => ?_
  have hlt : orderKey s < orderKey t :=
    lt_of_le_of_ne hst.1 fun heq => hst.2 (labels_eq_of_orderKey_eq heq)
  refine Text.map_lt_map (fun v w hvw => ?_) hlt
  exact Text.octets_lt_octets_iff.2 (String.lt_iff_toList_lt.1 hvw)

end Exposition

open Exposition

/-- **Faithful exposition.**  The text of a store that changes lead to has one sample line for each series, and
reads as the series of the store, each with its labels and its value, in the order of the octets of the label
values, which are taken in the order of the label names.  So two such stores show the same text exactly if they
have the same series. -/
theorem readSeries_render_ofChanges (cs ds : List Change) :
    let s := ofChanges cs
    readSeries s.render = some (inOrder s.series) ∧
    (sampleLines s.render).length = s.series.length ∧
    (inOrder s.series).Perm s.series ∧
    (∀ t ∈ s.series, (t.labels.named.map (·.1)).Pairwise (· < ·)) ∧
    (inOrder s.series).Pairwise (fun t u => octetKey t < octetKey u) ∧
    (s.render = (ofChanges ds).render ↔ s.series.Perm (ofChanges ds).series) := by
  intro s
  have hlabels : (s.series.map (·.labels)).Nodup := (owned_ofChanges cs).nodup_labels
  have hperm : (inOrder s.series).Perm s.series := inOrder_perm s.series
  refine ⟨readSeries_render s, ?_, hperm, fun t _ => pairwise_named t.labels, pairwise_octetKey_inOrder hlabels,
    fun htext => ?_, render_eq_of_perm hlabels⟩
  · rw [sampleLines_render, List.length_map, hperm.length_eq]
  · have hseries : inOrder s.series = inOrder (ofChanges ds).series := by
      refine Option.some.inj ?_
      rw [← readSeries_render, ← readSeries_render, htext]
    exact hperm.symm.trans (hseries ▸ inOrder_perm (ofChanges ds).series)

end Freshness.Store
