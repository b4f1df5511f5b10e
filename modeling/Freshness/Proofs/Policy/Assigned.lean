import Freshness.Proofs.Policy.Numbers
import Freshness.Proofs.Unicode.Case
import Mathlib.Data.List.Induction
import Mathlib.Data.List.Nodup

/-!
# What is known from variables

Every part of a policy has a variable of its own, whose name counts in any letter case.  The names of variables are
taken for paths.  A name without full stops and brackets is at most the path of a part itself, and never goes on into
it (`path_eq_of_read`).  So one more variable is all that is known of its part, and changes what is known of no other
(`known_concat_setting?`).

Hence the variables that are not for a part can be left out (`known_filter`, `onlyParts_ofAssignments`).  Where names
differ in more than letter case, what is known of a part is the text that is assigned to it, wherever the variable
stands (`known_of_assigns`).
-/

namespace Freshness.Policy

namespace Environment

/-- The name of the variable for a part, in lower case. -/
def variableName (item : Item) : String := namePrefix ++ item.name

/-- The variables are named `version_sync_` and the part. -/
example : [Item.checkByDefault, .timeoutSeconds, .maxConcurrent].map variableName =
    ["version_sync_default_test_all", "version_sync_check_timeout_secs", "version_sync_max_concurrent_checks"] := by
  decide

/-- The name of a variable has no full stops and brackets. -/
def IsFlat (v : String × String) : Prop := '.' ∉ v.1.toList ∧ '[' ∉ v.1.toList

/-- Variables whose names differ in more than letter case, and have no full stops and brackets. -/
structure Plain (l : List (String × String)) : Prop where
  distinct : (l.map fun v => Unicode.lowerCase v.1).Nodup
  flat : ∀ v ∈ l, IsFlat v

/-- The variable for a part has a text. -/
def Assigns (l : List (String × String)) (item : Item) (text : String) : Prop :=
  ∃ v ∈ l, Unicode.lowerCase v.1 = variableName item ∧ v.2 = text

/-- Whether a variable is the variable for a part. -/
def isForPart (v : String × String) : Bool :=
  [Item.checkByDefault, .timeoutSeconds, .maxConcurrent].any fun item => Unicode.lowerCase v.1 == variableName item

/-- The environment with only its variables for parts. -/
def onlyParts (e : Environment) : Environment := ⟨e.assigned.filter isForPart⟩

variable {l : List (String × String)} {item : Item} {v : String × String}

/-! ## Variables and settings -/

/-- A variable with the name of a part in lower case is for a part. -/
lemma isForPart_of_name (h : Unicode.lowerCase v.1 = variableName item) : isForPart v = true := by
  unfold isForPart
  rw [h, List.any_eq_true]
  exact ⟨item, by cases item <;> decide, beq_self_eq_true _⟩

/-- Whether a variable is for a part is said by its name. -/
lemma isForPart_congr {w : String × String} (h : w.1 = v.1) : isForPart w = isForPart v := by
  rw [isForPart, isForPart, h]

/-- A variable that takes the place of those with its name is for a part if they are. -/
lemma isForPart_comp_replace (v : String × String) :
    isForPart ∘ (fun w => if w.1 == v.1 then v else w) = isForPart := by
  funext w
  rw [Function.comp_apply]
  split_ifs with hw
  · rw [isForPart_congr (eq_of_beq hw)]
  · rfl

/-- One more variable is set after those before it. -/
lemma ofAssignments_concat (l : List (String × String)) (v : String × String) :
    ofAssignments (l ++ [v]) = (ofAssignments l).set v.1 v.2 := by
  rw [ofAssignments, List.foldl_concat]
  rfl

/-- The variables that are set have names of the variables in the list. -/
lemma exists_of_mem_ofAssignments (h : v ∈ (ofAssignments l).assigned) : ∃ w ∈ l, w.1 = v.1 := by
  induction l using List.reverseRecOn generalizing v with
  | nil => exact absurd h List.not_mem_nil
  | append_singleton l u ih =>
    have hlast : u ∈ l ++ [u] := List.mem_concat_self
    have hbefore : ∀ w ∈ (ofAssignments l).assigned, ∃ w' ∈ l ++ [u], w'.1 = w.1 := by
      intro w hw
      obtain ⟨w', hw', hname⟩ := ih hw
      exact ⟨w', List.mem_append_left _ hw', hname⟩
    rw [ofAssignments_concat, set] at h
    split_ifs at h
    · obtain ⟨w, hw, rfl⟩ := List.mem_map.1 h
      split_ifs
      · exact ⟨u, hlast, rfl⟩
      · exact hbefore w hw
    · rcases List.mem_append.1 h with hv | hv
      · exact hbefore v hv
      · obtain rfl := List.mem_singleton.1 hv
        exact ⟨u, hlast, rfl⟩

/-- A variable that is for a part is set among the variables for parts, and another one leaves them. -/
lemma onlyParts_set (e : Environment) (v : String × String) :
    (e.set v.1 v.2).onlyParts = if isForPart v then e.onlyParts.set v.1 v.2 else e.onlyParts := by
  cases hpart : isForPart v with
  | true =>
    have hany : (e.assigned.filter isForPart).any (·.1 == v.1) = e.assigned.any (·.1 == v.1) := by
      rw [List.any_filter]
      congr 1
      funext w
      cases hw : w.1 == v.1 with
      | true => rw [isForPart_congr (eq_of_beq hw), hpart, Bool.and_true]
      | false => rw [Bool.and_false]
    rw [if_pos rfl, onlyParts, onlyParts, set, set, hany]
    split_ifs with hset
    · rw [List.filter_map, isForPart_comp_replace]
    · rw [List.filter_append, List.filter_singleton, hpart, cond_true]
  | false =>
    rw [if_neg Bool.false_ne_true, onlyParts, onlyParts, set]
    split_ifs with hset
    · rw [List.filter_map, isForPart_comp_replace]
      congr 1
      refine (List.map_congr_left fun w hw => ?_).trans (List.map_id _)
      rw [if_neg, id]
      intro hw'
      rw [List.mem_filter, isForPart_congr (eq_of_beq hw'), hpart] at hw
      exact Bool.false_ne_true hw.2
    · rw [List.filter_append, List.filter_singleton, hpart, cond_false, List.append_nil]

/-- The variables for parts that are set are those that are set by the variables for parts alone. -/
lemma onlyParts_ofAssignments (l : List (String × String)) :
    (ofAssignments l).onlyParts = ofAssignments (l.filter isForPart) := by
  induction l using List.reverseRecOn with
  | nil => rfl
  | append_singleton l v ih =>
    rw [ofAssignments_concat, onlyParts_set, ih, List.filter_append, List.filter_singleton]
    cases isForPart v with
    | true => rw [if_pos rfl, cond_true, ofAssignments_concat]
    | false => rw [if_neg Bool.false_ne_true, cond_false, List.append_nil]

/-- Variables of different names are kept as they are set. -/
lemma ofAssignments_of_nodup (h : (l.map (·.1)).Nodup) : ofAssignments l = ⟨l⟩ := by
  induction l using List.reverseRecOn with
  | nil => rfl
  | append_singleton l v ih =>
    rw [List.map_append, List.nodup_append] at h
    obtain ⟨hl, -, hnew⟩ := h
    have hfresh : l.any (·.1 == v.1) = false := by
      rw [List.any_eq_false]
      intro w hw heq
      exact hnew w.1 (List.mem_map_of_mem hw) v.1 (List.mem_singleton_self _) (eq_of_beq heq)
    rw [ofAssignments_concat, ih hl, set, hfresh]
    rfl

/-- A text without full stops and brackets is no path but that of the text itself. -/
lemma path_eq_of_read {text : String} (hdot : '.' ∉ text.toList) (hbracket : '[' ∉ text.toList) {path : Path}
    (h : Path.read text = .ok path) : path = ⟨text, []⟩ := by
  have hparts : text.toList.takeWhile Path.isNameChar ++ text.toList.dropWhile Path.isNameChar = text.toList :=
    List.takeWhile_append_dropWhile
  unfold Path.read at h
  dsimp only at h
  split_ifs at h
  cases hrest : text.toList.dropWhile Path.isNameChar with
  | nil =>
    rw [hrest, List.append_nil] at hparts
    rw [hrest, hparts, String.ofList_toList] at h
    exact (Except.ok.inj h).symm
  | cons c rest =>
    have hc : c ∈ text.toList := by
      rw [← hparts, hrest]
      exact List.mem_append_right _ List.mem_cons_self
    have hstep : Path.readStep (c :: rest) = .error .noStep := by
      unfold Path.readStep
      split
      · rename_i heq
        exact absurd ((List.cons.inj heq).1 ▸ hc) hdot
      · rename_i heq
        exact absurd ((List.cons.inj heq).1 ▸ hc) hbracket
      · rfl
    rw [hrest, List.length_cons, Path.readSteps, hstep] at h
    · cases h
    · exact List.cons_ne_nil c rest

/-- A text begins with another one if it is this one and what is left. -/
lemma dropStart?_eq_some_iff {start s rest : String} : dropStart? start s = some rest ↔ s = start ++ rest := by
  unfold dropStart?
  rw [Option.ite_none_right_eq_some, Option.some.injEq, List.isPrefixOf_iff_prefix, ← String.length_toList]
  constructor
  · rintro ⟨⟨tail, htail⟩, rfl⟩
    rw [← htail, List.drop_left, ← String.toList_inj, String.toList_append, String.toList_ofList, htail]
  · rintro rfl
    rw [String.toList_append, List.drop_left, String.ofList_toList]
    exact ⟨List.prefix_append _ _, rfl⟩

/-- A variable whose name has no full stops and brackets makes a setting at the rest of its name, if it makes one. -/
lemma setting_eq_of_setting? (hv : IsFlat v) {s : Setting} (h : setting? v = some s) :
    ∃ rest, Unicode.lowerCase v.1 = namePrefix ++ rest ∧ s = ⟨⟨rest, []⟩, value v.2, .environment⟩ := by
  obtain ⟨rest, hrest, hmap⟩ := Option.bind_eq_some_iff.1 h
  obtain ⟨path, hpath, rfl⟩ := Option.map_eq_some_iff.1 hmap
  rw [dropStart?_eq_some_iff] at hrest
  have hkeeps : ∀ d ∈ rest.toList, d ∈ (Unicode.lowerCase v.1).toList := by
    intro d hd
    rw [hrest, String.toList_append]
    exact List.mem_append_right _ hd
  have hdot : '.' ∉ rest.toList := fun hmem =>
    hv.1 ((Unicode.mem_lowerCase_iff (by decide) v.1).1 (hkeeps _ hmem))
  have hbracket : '[' ∉ rest.toList := fun hmem =>
    hv.2 ((Unicode.mem_lowerCase_iff (by decide) v.1).1 (hkeeps _ hmem))
  have hread : Path.read rest = .ok path := by
    cases hcase : Path.read rest with
    | error fault => rw [hcase] at hpath; cases hpath
    | ok path' =>
      rw [hcase] at hpath
      rw [Option.some.inj hpath]
  refine ⟨rest, hrest, ?_⟩
  rw [path_eq_of_read hdot hbracket hread]

/-- The text of a variable never stands for a table. -/
lemma value_ne_table (text : String) (fields : List (String × Value)) : value text ≠ .table fields := by
  unfold value
  split_ifs
  · exact Value.noConfusion
  · exact Value.noConfusion
  · split
    · exact Value.noConfusion
    · split
      · exact Value.noConfusion
      · exact Value.noConfusion

/-- A setting at a name alone, with the text of a variable, is what is known of the part with this name, and changes
no other part. -/
lemma update_of_value (rest text : String) (earlier : Option (Value × Source)) :
    Setting.update ⟨⟨rest, []⟩, value text, .environment⟩ item earlier =
      if rest = item.name then some (value text, .environment) else earlier := by
  unfold Setting.update
  by_cases hrest : rest = item.name
  · rw [if_neg (not_not_intro hrest), if_pos hrest]
    cases hvalue : value text with
    | table fields => exact absurd hvalue (value_ne_table text fields)
    | _ => rfl
  · rw [if_pos hrest, if_neg hrest]

/-! ## What is known of a part -/

/-- One more variable is what is known of its part, and changes what is known of no other. -/
lemma known_concat_setting? (hv : IsFlat v) (l : List (String × String)) (item : Item) :
    known ((l ++ [v]).filterMap setting?) item =
      if Unicode.lowerCase v.1 = variableName item then some (value v.2, .environment)
      else known (l.filterMap setting?) item := by
  rw [List.filterMap_append]
  cases hs : setting? v with
  | none =>
    have hname : Unicode.lowerCase v.1 ≠ variableName item := by
      intro hname
      cases hs.symm.trans (setting?_of_name hname v.2)
    rw [if_neg hname, List.filterMap_cons_none hs, List.filterMap_nil, List.append_nil]
  | some s =>
    obtain ⟨rest, hrest, rfl⟩ := setting_eq_of_setting? hv hs
    have hname : Unicode.lowerCase v.1 = variableName item ↔ rest = item.name := by
      rw [hrest, variableName, String.append_right_inj]
    rw [List.filterMap_cons_some hs, List.filterMap_nil, known_concat, update_of_value]
    simp only [hname]

/-- What is known of a part is known from the variables for parts alone. -/
lemma known_filter (h : ∀ v ∈ l, IsFlat v) (item : Item) :
    known ((l.filter isForPart).filterMap setting?) item = known (l.filterMap setting?) item := by
  induction l using List.reverseRecOn with
  | nil => rfl
  | append_singleton l v ih =>
    have hv : IsFlat v := h v List.mem_concat_self
    have hrest := ih fun w hw => h w (List.mem_append_left _ hw)
    rw [List.filter_append, List.filter_singleton, known_concat_setting? hv]
    cases hpart : isForPart v with
    | true =>
      rw [cond_true, known_concat_setting? hv, hrest]
    | false =>
      have hname : Unicode.lowerCase v.1 ≠ variableName item := fun hname => by
        rw [isForPart_of_name hname] at hpart
        cases hpart
      rw [cond_false, List.append_nil, hrest, if_neg hname]

/-- The variables of a longer list assign what those of the list do, and what the new one does. -/
lemma assigns_concat {text : String} : Assigns (l ++ [v]) item text ↔
    Assigns l item text ∨ Unicode.lowerCase v.1 = variableName item ∧ v.2 = text := by
  unfold Assigns
  simp only [List.mem_append, List.mem_singleton, or_and_right, exists_or, exists_eq_left]

/-- The first variables are plain if all are. -/
lemma Plain.of_concat (h : Plain (l ++ [v])) : Plain l := by
  refine ⟨?_, fun w hw => h.flat w (List.mem_append_left _ hw)⟩
  have hdistinct := h.distinct
  rw [List.map_append] at hdistinct
  exact (List.nodup_append.1 hdistinct).1

/-- What is known of a part is the text that is assigned to it. -/
lemma known_of_assigns (hl : Plain l) {text : String} (h : Assigns l item text) :
    known (l.filterMap setting?) item = some (value text, .environment) := by
  induction l using List.reverseRecOn with
  | nil =>
    obtain ⟨v, hv, -⟩ := h
    exact absurd hv List.not_mem_nil
  | append_singleton l v ih =>
    rw [known_concat_setting? (hl.flat v List.mem_concat_self)]
    rcases assigns_concat.1 h with hbefore | ⟨hname, rfl⟩
    · -- the last variable has another name than the one that is assigned before
      obtain ⟨w, hw, hwname, -⟩ := id hbefore
      have hdistinct := hl.distinct
      rw [List.map_append, List.nodup_append] at hdistinct
      have hname : Unicode.lowerCase v.1 ≠ variableName item := by
        intro hname
        refine hdistinct.2.2 _ (List.mem_map_of_mem hw) _ (List.mem_singleton_self _) ?_
        exact hwname.trans hname.symm
      rw [if_neg hname]
      exact ih hl.of_concat hbefore
    · rw [if_pos hname]

/-- Nothing is known of a part to which no text is assigned. -/
lemma known_of_not_assigns (hl : Plain l) (h : ∀ text, ¬Assigns l item text) :
    known (l.filterMap setting?) item = none := by
  induction l using List.reverseRecOn with
  | nil => rfl
  | append_singleton l v ih =>
    have hname : Unicode.lowerCase v.1 ≠ variableName item := fun hname =>
      h v.2 (assigns_concat.2 (.inr ⟨hname, rfl⟩))
    rw [known_concat_setting? (hl.flat v List.mem_concat_self), if_neg hname]
    exact ih hl.of_concat fun text htext => h text (assigns_concat.2 (.inl htext))

/-- No two texts are assigned to a part. -/
lemma Assigns.unique (hl : Plain l) {text text' : String} (h : Assigns l item text) (h' : Assigns l item text') :
    text = text' := by
  obtain ⟨v, hv, hname, rfl⟩ := h
  obtain ⟨v', hv', hname', rfl⟩ := h'
  rw [List.inj_on_of_nodup_map hl.distinct hv hv' (hname.trans hname'.symm)]

end Environment

end Freshness.Policy
