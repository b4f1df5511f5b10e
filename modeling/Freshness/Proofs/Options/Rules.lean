import Freshness.Options
import Freshness.Proofs.Text.Numeral
import Mathlib.Data.List.Forall2

/-!
# The rules for annotations

Fourteen rules say what is wrong with the annotations of a container (`Rule`).  A text that is no truth value,
no pattern to the compiler or no number violates the rule for its setting.  Digests are asked for with no
metadata and with none of the settings that select tags, even if these have texts that cannot be read; they are
asked for by a text that says so, not by one that cannot be read.  A pin of a lesser part is set only beside the
pin of the greater part, whatever the texts of the two are.

The issues that are found are those of the violated rules, one for each, in the order of the rules
(`forall₂_reports`), and options are resolved exactly if no rule is violated
(`resolve_eq_error_iff_violated`).
-/

namespace Freshness.Options

/-! ## What texts say -/

/-- The spellings of a truth value. -/
def spellings : Bool → List String
  | true => ["1", "t", "T", "true", "TRUE", "True"]
  | false => ["0", "f", "F", "false", "FALSE", "False"]

/-- A text says a truth value if it is one of the spellings of it. -/
def Spells (text : String) (b : Bool) : Prop := text ∈ spellings b

instance (text : String) (b : Bool) : Decidable (Spells text b) :=
  inferInstanceAs (Decidable (text ∈ spellings b))

/-- A text denotes a number if it is a numeral of it between white space. -/
def Denotes (text : String) (n : UInt64) : Prop :=
  ∃ lead numeral trail : List Char, text.toList = lead ++ (numeral ++ trail) ∧
    (∀ c ∈ lead, Text.isBlank c = true) ∧ (∀ c ∈ trail, Text.isBlank c = true) ∧
    Text.IsNumeral numeral n.toNat

/-- No text says both truth values. -/
lemma not_spells_false {text : String} (h : Spells text true) : ¬Spells text false := by
  have hall : ∀ s ∈ spellings true, s ∉ spellings false := by decide
  exact hall text h

/-- The texts that are read as a truth value are its spellings. -/
lemma readBool?_eq_some_iff {text : String} {b : Bool} : readBool? text = some b ↔ Spells text b := by
  have hread : readBool? text =
      if Spells text true then some true else if Spells text false then some false else none := by
    simp only [readBool?, List.contains_iff_mem]
    rfl
  rw [hread]
  by_cases htrue : Spells text true
  · have hfalse := not_spells_false htrue
    cases b <;> simp [htrue, hfalse]
  · by_cases hfalse : Spells text false <;> cases b <;> simp [htrue, hfalse]

/-- The texts that are read as a pin denote it. -/
lemma readPin?_eq_some_iff {text : String} {n : UInt64} : readPin? text = some n ↔ Denotes text n :=
  Text.readWord?_trim_eq_some_iff

/-! ## The rules -/

/-- A rule for the annotations of a container. -/
inductive Rule where
  | truthValue (s : Setting)
  | pattern
  | number (s : Setting)
  | digestsWithoutMetadata
  | digestsWithout (s : Setting)
  | together (s required : Setting)
  deriving DecidableEq, Repr

namespace Rule

/-- All rules in their order. -/
def all : List Rule :=
  [truthValue .useSha, truthValue .useMetadata, truthValue .resolveShaToTags, pattern, number .pinMajor,
    number .pinMinor, number .pinPatch, digestsWithoutMetadata, digestsWithout .matchRegex,
    digestsWithout .pinMajor, digestsWithout .pinMinor, digestsWithout .pinPatch,
    together .pinMinor .pinMajor, together .pinPatch .pinMinor]

/-- No rule is stated twice. -/
example : all.Nodup := by decide

/-- The annotations of a container violate a rule, with a compiler for patterns. -/
def Violated (compiler : Pattern.Compiler) (a : Annotations) (container : String) : Rule → Prop
  | truthValue s => ∃ text, a.setting? s container = some text ∧ ∀ b, ¬Spells text b
  | pattern =>
    ∃ text, a.setting? .matchRegex container = some text ∧ ∀ p, compiler.run text ≠ .ok p
  | number s => ∃ text, a.setting? s container = some text ∧ ∀ n, ¬Denotes text n
  | digestsWithoutMetadata =>
    (∃ text, a.setting? .useSha container = some text ∧ Spells text true) ∧
      ∃ text, a.setting? .useMetadata container = some text ∧ Spells text true
  | digestsWithout s =>
    (∃ text, a.setting? .useSha container = some text ∧ Spells text true) ∧
      ∃ text, a.setting? s container = some text
  | together s required =>
    (∃ text, a.setting? s container = some text) ∧ a.setting? required container = none

/-- An issue reports that a rule is violated.  It names the keys of the settings for the container, and a text that
cannot be read as it stands in the annotations. -/
inductive Reports (compiler : Pattern.Compiler) (a : Annotations) (container : String) : Rule → Issue → Prop
  | truthValue {s : Setting} {text : String} (htext : a.setting? s container = some text) :
      Reports compiler a container (.truthValue s) (.invalidBool (s.domain ++ "/" ++ container) text)
  | pattern {text : String} {refusal : Pattern.Refusal}
      (htext : a.setting? .matchRegex container = some text) (hrefused : compiler.run text = .error refusal) :
      Reports compiler a container .pattern
        (.invalidRegex (Setting.matchRegex.domain ++ "/" ++ container) text refusal)
  | number {s : Setting} {text : String} (htext : a.setting? s container = some text) :
      Reports compiler a container (.number s) (.invalidPin (s.domain ++ "/" ++ container) text)
  | digestsWithoutMetadata :
      Reports compiler a container .digestsWithoutMetadata
        (.conflict (Setting.useSha.domain ++ "/" ++ container) (Setting.useMetadata.domain ++ "/" ++ container))
  | digestsWithout {s : Setting} :
      Reports compiler a container (.digestsWithout s)
        (.conflict (Setting.useSha.domain ++ "/" ++ container) (s.domain ++ "/" ++ container))
  | together {s required : Setting} :
      Reports compiler a container (.together s required)
        (.missingDependency (s.domain ++ "/" ++ container) (required.domain ++ "/" ++ container))

end Rule

section

variable (compiler : Pattern.Compiler) (a : Annotations) (container : String)

/-! ## Where rules are violated -/

/-- A truth value is taken for true if a text is there and says so. -/
lemma flag_eq_true_iff {s : Setting} :
    flag a container s = true ↔ ∃ text, a.setting? s container = some text ∧ Spells text true := by
  simp only [flag, Option.getD_eq_iff, Option.bind_eq_some_iff, readBool?_eq_some_iff, Bool.false_eq_true, and_false,
    or_false]

/-- A setting is present if a text is there. -/
lemma isSet_eq_true_iff {s : Setting} :
    isSet a container s = true ↔ ∃ text, a.setting? s container = some text :=
  Option.isSome_iff_exists

/-- The issue that is found where a rule is violated. -/
def issuesOf : Rule → List Issue
  | .truthValue s => flagIssues a container s
  | .pattern => patternIssues compiler a container
  | .number s => pinIssues a container s
  | .digestsWithoutMetadata =>
    if flag a container .useSha = true ∧ flag a container .useMetadata = true then
      [.conflict (Setting.useSha.key container) (Setting.useMetadata.key container)]
    else []
  | .digestsWithout s =>
    if flag a container .useSha = true ∧ isSet a container s = true then
      [.conflict (Setting.useSha.key container) (s.key container)]
    else []
  | .together s required => dependencyIssues a container s required

/-- The conflicts of settings with digests are those of the rules on these settings. -/
lemma map_conflict_filter_isSet (hsha : flag a container .useSha = true) (settings : List Setting) :
    (settings.filter (isSet a container)).map
        (fun s => Issue.conflict (Setting.useSha.key container) (s.key container)) =
      (settings.map Rule.digestsWithout).flatMap (issuesOf compiler a container) := by
  induction settings with
  | nil => rfl
  | cons s settings ih =>
    rw [List.map_cons, List.flatMap_cons, ← ih]
    cases hs : isSet a container s <;> simp [issuesOf, hsha, hs]

/-- The conflicts are those of the rules on digests. -/
lemma conflictIssues_eq_flatMap :
    conflictIssues a container = (Rule.digestsWithoutMetadata ::
      [Setting.matchRegex, .pinMajor, .pinMinor, .pinPatch].map Rule.digestsWithout).flatMap
        (issuesOf compiler a container) := by
  unfold conflictIssues excludedBySha
  cases hsha : flag a container .useSha with
  | false => simp [issuesOf, hsha]
  | true =>
    rw [if_pos rfl, List.map_append, map_conflict_filter_isSet compiler a container hsha, List.flatMap_cons]
    cases hmetadata : flag a container .useMetadata <;> simp [issuesOf, hsha, hmetadata]

/-- The issues are those of the rules, one rule after the other. -/
lemma issues_eq_flatMap :
    issues compiler a container = Rule.all.flatMap (issuesOf compiler a container) := by
  simp only [issues, conflictIssues_eq_flatMap compiler, Rule.all, List.map_cons, List.map_nil, List.flatMap_cons,
    List.flatMap_nil, List.append_nil, List.append_assoc]
  rfl

variable {compiler a container}

/-- What is found is one issue that reports a violation, if there is one, and nothing otherwise. -/
def Finds (violated : Prop) (reports : Issue → Prop) (found : List Issue) : Prop :=
  (violated ∧ ∃ i, found = [i] ∧ reports i) ∨ (¬violated ∧ found = [])

/-- An issue that is found under a condition is found where this amounts to a violation. -/
lemma finds_ite {p violated : Prop} [Decidable p] (h : p ↔ violated) {reports : Issue → Prop} {i : Issue}
    (hi : reports i) : Finds violated reports (if p then [i] else []) := by
  by_cases hp : p
  · exact .inl ⟨h.1 hp, i, if_pos hp, hi⟩
  · exact .inr ⟨fun hv => hp (h.2 hv), if_neg hp⟩

/-- Without a text there is nothing that cannot be read, and nothing is found. -/
lemma finds_nil_of_eq_none {text? : Option String} (htext : text? = none) {p : String → Prop}
    {reports : Issue → Prop} : Finds (∃ text, text? = some text ∧ p text) reports [] := by
  refine .inr ⟨?_, rfl⟩
  rintro ⟨text, htext', -⟩
  cases htext.symm.trans htext'

/-- An issue about a text that cannot be read is found where no reading of the text is right. -/
lemma finds_unreadable {α : Type} {read? : String → Option α} {Reads : String → α → Prop}
    (h : ∀ text x, read? text = some x ↔ Reads text x) (text? : Option String) {issue : String → Issue}
    {reports : Issue → Prop} :
    (∀ text, text? = some text → reports (issue text)) →
      Finds (∃ text, text? = some text ∧ ∀ x, ¬Reads text x) reports
        (match text? with
          | some text => if (read? text).isNone then [issue text] else []
          | none => []) := by
  -- the condition stands behind the colon, since the match would take it along
  intro hissue
  cases text? with
  | none => exact finds_nil_of_eq_none rfl
  | some text =>
    refine finds_ite ?_ (hissue text rfl)
    simp only [Option.some.injEq, exists_eq_left', Option.isNone_iff_eq_none,
      Option.eq_none_iff_forall_ne_some, ne_eq, h]

/-- The issue of a pattern is found where its text makes no pattern. -/
lemma finds_patternIssues (compiler : Pattern.Compiler) (a : Annotations) (container : String) :
    Finds (Rule.pattern.Violated compiler a container) (Rule.pattern.Reports compiler a container)
      (patternIssues compiler a container) := by
  unfold patternIssues
  cases htext : a.setting? .matchRegex container with
  | none => exact finds_nil_of_eq_none htext
  | some text =>
    cases hread : compiler.run text with
    | ok p =>
      have hkept : ¬Rule.pattern.Violated compiler a container := by
        rintro ⟨text', htext', hnot⟩
        obtain rfl := Option.some.inj (htext.symm.trans htext')
        exact hnot p hread
      refine .inr ⟨hkept, ?_⟩
      simp only [hread]
    | error refusal =>
      have hviolated : Rule.pattern.Violated compiler a container := by
        refine ⟨text, htext, ?_⟩
        intro p hp
        cases hread.symm.trans hp
      refine .inl ⟨hviolated, _, ?_, .pattern htext hread⟩
      simp only [hread]
      rfl

/-- For each rule that is violated one issue is found, which reports it, and for a rule that is kept none. -/
lemma finds_issuesOf (compiler : Pattern.Compiler) (a : Annotations) (container : String) (r : Rule) :
    Finds (r.Violated compiler a container) (r.Reports compiler a container)
      (issuesOf compiler a container r) := by
  cases r with
  | truthValue s =>
    exact finds_unreadable (fun _ _ => readBool?_eq_some_iff) (a.setting? s container)
      fun text htext => Rule.Reports.truthValue htext
  | pattern => exact finds_patternIssues compiler a container
  | number s =>
    exact finds_unreadable (fun _ _ => readPin?_eq_some_iff) (a.setting? s container)
      fun text htext => Rule.Reports.number htext
  | digestsWithoutMetadata =>
    exact finds_ite (and_congr (flag_eq_true_iff a container) (flag_eq_true_iff a container))
      .digestsWithoutMetadata
  | digestsWithout s =>
    exact finds_ite (and_congr (flag_eq_true_iff a container) (isSet_eq_true_iff a container)) .digestsWithout
  | together s required =>
    have hmissing : ¬isSet a container required = true ↔ a.setting? required container = none := by
      rw [isSet, Bool.not_eq_true, Option.isSome_eq_false_iff, Option.isNone_iff_eq_none]
    exact finds_ite (and_congr (isSet_eq_true_iff a container) hmissing) .together

/-- A rule is violated where an issue is found for it. -/
lemma issuesOf_ne_nil_iff {r : Rule} :
    issuesOf compiler a container r ≠ [] ↔ r.Violated compiler a container := by
  rcases finds_issuesOf compiler a container r with ⟨hviolated, i, hfound, -⟩ | ⟨hkept, hfound⟩
  · exact iff_of_true (hfound ▸ List.cons_ne_nil i []) hviolated
  · exact iff_of_false (fun hne => hne hfound) hkept

instance (r : Rule) : Decidable (r.Violated compiler a container) := decidable_of_iff _ issuesOf_ne_nil_iff

/-! ## All issues -/

/-- Of any rules the violated ones are reported, one issue for each, in their order. -/
lemma forall₂_reports (compiler : Pattern.Compiler) (a : Annotations) (container : String) (rules : List Rule) :
    List.Forall₂ (Rule.Reports compiler a container) (rules.filter fun r => r.Violated compiler a container)
      (rules.flatMap (issuesOf compiler a container)) := by
  induction rules with
  | nil => exact .nil
  | cons r rules ih =>
    rw [List.flatMap_cons]
    rcases finds_issuesOf compiler a container r with ⟨hviolated, i, hfound, hi⟩ | ⟨hkept, hfound⟩
    · rw [List.filter_cons, decide_eq_true hviolated, if_pos rfl, hfound]
      exact .cons hi ih
    · rw [List.filter_cons, decide_eq_false hkept, if_neg Bool.false_ne_true, hfound]
      exact ih

/-- Nothing is wrong with annotations that violate no rule. -/
lemma issues_eq_nil_iff :
    issues compiler a container = [] ↔ ∀ r ∈ Rule.all, ¬r.Violated compiler a container := by
  rw [issues_eq_flatMap, List.flatMap_eq_nil_iff]
  refine forall₂_congr fun r _ => ?_
  rw [← issuesOf_ne_nil_iff, not_not]

/-- Resolving fails with what is wrong, if anything is. -/
lemma resolve_eq_error_iff {found : List Issue} :
    resolve compiler a container = .error found ↔ found ≠ [] ∧ issues compiler a container = found := by
  unfold resolve
  cases hfound : issues compiler a container with
  | nil => simp [eq_comm]
  | cons i rest =>
    simp only [List.isEmpty_cons, Bool.false_eq_true, if_false, Except.error.injEq]
    exact ⟨fun h => ⟨h ▸ List.cons_ne_nil i rest, h⟩, fun h => h.2⟩

/-- Annotations have one issue at most that reports a violation of a rule. -/
lemma rightUnique_reports : Relator.RightUnique (Rule.Reports compiler a container) := by
  intro r i j hi hj
  cases hi with
  | truthValue htext =>
    cases hj with
    | truthValue htext' => rw [Option.some.inj (htext.symm.trans htext')]
  | number htext =>
    cases hj with
    | number htext' => rw [Option.some.inj (htext.symm.trans htext')]
  | pattern htext hrefused =>
    cases hj with
    | pattern htext' hrefused' =>
      obtain rfl := Option.some.inj (htext.symm.trans htext')
      rw [Except.error.inj (hrefused.symm.trans hrefused')]
  | digestsWithoutMetadata => cases hj; rfl
  | digestsWithout => cases hj; rfl
  | together => cases hj; rfl

end

/-- **Complete report.**  Whatever the compiler of patterns is, resolving the annotations of a container fails exactly
if they violate a rule, and then it reports each violated rule by one issue, in the order of the rules, and nothing
else. -/
theorem resolve_eq_error_iff_violated (compiler : Pattern.Compiler) (a : Annotations) (container : String) :
    ((∃ found, resolve compiler a container = .error found) ↔
      ∃ r ∈ Rule.all, r.Violated compiler a container) ∧
    ∀ found, resolve compiler a container = .error found ↔ found ≠ [] ∧
      List.Forall₂ (Rule.Reports compiler a container)
        (Rule.all.filter fun r => r.Violated compiler a container) found := by
  have hreports := forall₂_reports compiler a container Rule.all
  rw [← issues_eq_flatMap] at hreports
  refine ⟨?_, fun found => ?_⟩
  · calc (∃ found, resolve compiler a container = .error found)
        ↔ issues compiler a container ≠ [] := by simp only [resolve_eq_error_iff, exists_eq_right']
      _ ↔ ∃ r ∈ Rule.all, r.Violated compiler a container := by
        rw [ne_eq, issues_eq_nil_iff]
        push Not
        rfl
  · rw [resolve_eq_error_iff]
    refine and_congr_right fun _ => ⟨?_, fun hfound => ?_⟩
    · rintro rfl
      exact hreports
    · exact List.right_unique_forall₂' rightUnique_reports hreports hfound

/-- A pin that cannot be read is excluded by digests all the same, and is enough for the lesser pin. -/
example :
    let key (s : Setting) := s.key "app"
    issues Pattern.compiler ⟨[(key .useSha, "T"), (key .pinMajor, " -1"), (key .pinMinor, "2")]⟩ "app" =
      [.invalidPin (key .pinMajor) " -1", .conflict (key .useSha) (key .pinMajor),
        .conflict (key .useSha) (key .pinMinor)] := by
  decide +kernel

end Freshness.Options
