import Freshness.Proofs.Options.Keys
import Freshness.Proofs.Options.Rules

/-!
# The options that annotations can ask for

Annotations are resolved to options exactly if each of them can be read as what the options say (`Decodes`) and
the options fit together (`Consistent`), as `resolve_eq_ok_iff` says.  What is left out is false or absent.  The
other way round, options that fit together, with a pattern that the compiler makes of its text, can be written down
as annotations of any container (`texts`, `decodes_texts`).  So the options that resolving can lead to are just
those that fit together (`resolve_eq_ok_iff_consistent`).
-/

namespace Freshness.Options

/-! ## Reading and consistency -/

/-- A truth value is what a text says, and false without a text. -/
def Says : Option String → Bool → Prop
  | none, b => b = false
  | some text, b => Spells text b

/-- Options are what the annotations of a container say: each truth value is spelled out or false without a text,
each pin is denoted by its text, the compiler makes the pattern of its text, and each of them is absent without one. -/
structure Decodes (compiler : Pattern.Compiler) (a : Annotations) (container : String) (o : Options) : Prop where
  overrideUrl : a.setting? .overrideUrl container = o.overrideUrl
  useSha : Says (a.setting? .useSha container) o.useSha
  useMetadata : Says (a.setting? .useMetadata container) o.useMetadata
  matchRegex : Option.Rel (fun text p => compiler.run text = .ok p)
    (a.setting? .matchRegex container) o.matchRegex
  pinMajor : Option.Rel Denotes (a.setting? .pinMajor container) o.pinMajor
  pinMinor : Option.Rel Denotes (a.setting? .pinMinor container) o.pinMinor
  pinPatch : Option.Rel Denotes (a.setting? .pinPatch container) o.pinPatch
  resolveShaToTags : Says (a.setting? .resolveShaToTags container) o.resolveShaToTags

/-- Options that fit together: with digests there is no metadata and nothing that selects tags, and a lesser part is
pinned only beside the greater one. -/
structure Consistent (o : Options) : Prop where
  metadata : o.useSha = true → o.useMetadata = false
  pattern : o.useSha = true → o.matchRegex = none
  pins : o.useSha = true → o.pinMajor = none ∧ o.pinMinor = none ∧ o.pinPatch = none
  minor : o.pinMinor ≠ none → o.pinMajor ≠ none
  patch : o.pinPatch ≠ none → o.pinMinor ≠ none

/-! ## One setting at a time -/

/-- A value is read from a text, or absent without one, exactly if a text that is there can be read and the value
is the one that is read. -/
lemma rel_iff_bind {α : Type} {read? : String → Option α} {text? : Option String} {value : Option α} :
    Option.Rel (fun text x => read? text = some x) text? value ↔
      (∀ text, text? = some text → read? text ≠ none) ∧ text?.bind read? = value := by
  constructor
  · rintro (h | -)
    · refine ⟨fun text htext => ?_, h⟩
      rw [← Option.some.inj htext, h]
      exact Option.some_ne_none _
    · exact ⟨fun text htext => absurd htext.symm (Option.some_ne_none text), rfl⟩
  · rintro ⟨hread, rfl⟩
    cases text? with
    | none => exact .none
    | some text =>
      obtain ⟨x, hx⟩ := Option.ne_none_iff_exists'.1 (hread text rfl)
      rw [Option.bind_some, hx]
      exact .some hx

section

variable {compiler : Pattern.Compiler} {a : Annotations} {container : String} {s : Setting}

/-- A truth value can be read exactly if it is what the text says. -/
lemma says_iff {b : Bool} :
    Says (a.setting? s container) b ↔ flagIssues a container s = [] ∧ flag a container s = b := by
  unfold flagIssues flag
  cases htext : a.setting? s container with
  | none => simp [Says, eq_comm]
  | some text =>
    rw [Says, ← readBool?_eq_some_iff]
    cases hread : readBool? text <;> simp [hread]

/-- A pin can be read exactly if it is what the text denotes. -/
lemma rel_denotes_iff {pin : Option UInt64} :
    Option.Rel Denotes (a.setting? s container) pin ↔
      pinIssues a container s = [] ∧ pin? a container s = pin := by
  have hreads : Denotes = fun text n => readPin? text = some n := by
    funext text n
    exact propext readPin?_eq_some_iff.symm
  rw [hreads, rel_iff_bind, pin?, pinIssues]
  refine and_congr_left fun _ => ?_
  cases htext : a.setting? s container with
  | none => simp
  | some text => simp [Option.isNone_iff_eq_none]

/-- A pattern can be read exactly if the compiler makes it of the text. -/
lemma rel_run_iff {pattern : Option Pattern} :
    Option.Rel (fun text p => compiler.run text = .ok p) (a.setting? .matchRegex container) pattern ↔
      patternIssues compiler a container = [] ∧ pattern? compiler a container = pattern := by
  have hreads : (fun (text : String) (p : Pattern) => compiler.run text = .ok p) =
      fun text p => (compiler.run text).toOption = some p := by
    funext text p
    cases compiler.run text <;> simp [Except.toOption]
  rw [hreads, rel_iff_bind, pattern?, patternIssues]
  refine and_congr_left fun _ => ?_
  cases htext : a.setting? .matchRegex container with
  | none => simp
  | some text => cases h : compiler.run text <;> simp [Except.toOption, h]

/-- A value that is read from a text is there exactly if the text is. -/
lemma isSet_eq_isSome {α : Type} {Reads : String → α → Prop} {value : Option α}
    (h : Option.Rel Reads (a.setting? s container) value) : isSet a container s = value.isSome := by
  unfold isSet
  generalize a.setting? s container = text? at h
  cases h <;> rfl

/-- There are no conflicts exactly if there are no digests, or nothing that they exclude. -/
lemma conflictIssues_eq_nil_iff :
    conflictIssues a container = [] ↔ (flag a container .useSha = true → flag a container .useMetadata = false ∧
      ∀ s ∈ [Setting.matchRegex, .pinMajor, .pinMinor, .pinPatch], isSet a container s = false) := by
  unfold conflictIssues excludedBySha
  cases flag a container .useSha with
  | false => simp
  | true => cases flag a container .useMetadata <;> simp [List.filter_eq_nil_iff]

/-- Nothing is missing exactly if a setting that is present has the one that it builds on. -/
lemma dependencyIssues_eq_nil_iff {required : Setting} :
    dependencyIssues a container s required = [] ↔
      (isSet a container s = true → isSet a container required = true) := by
  unfold dependencyIssues
  cases isSet a container s <;> cases isSet a container required <;> simp

/-- What annotations say fits together exactly if they have no conflict and nothing is missing. -/
lemma Decodes.consistent_iff {o : Options} (h : Decodes compiler a container o) :
    o.Consistent ↔ conflictIssues a container = [] ∧ dependencyIssues a container .pinMinor .pinMajor = [] ∧
      dependencyIssues a container .pinPatch .pinMinor = [] := by
  have hsha := (says_iff.1 h.useSha).2
  have hmetadata := (says_iff.1 h.useMetadata).2
  simp only [conflictIssues_eq_nil_iff, dependencyIssues_eq_nil_iff, List.forall_mem_cons, hsha, hmetadata,
    isSet_eq_isSome h.matchRegex, isSet_eq_isSome h.pinMajor, isSet_eq_isSome h.pinMinor,
    isSet_eq_isSome h.pinPatch, Option.isSome_eq_false_iff, Option.isNone_iff_eq_none, Option.isSome_iff_ne_none]
  constructor
  · intro hc
    refine ⟨fun hs => ⟨hc.metadata hs, hc.pattern hs, ?_⟩, hc.minor, hc.patch⟩
    obtain ⟨hmajor, hminor, hpatch⟩ := hc.pins hs
    exact ⟨hmajor, hminor, hpatch, List.forall_mem_nil _⟩
  · rintro ⟨hdigests, hminor, hpatch⟩
    refine ⟨fun hs => (hdigests hs).1, fun hs => (hdigests hs).2.1, fun hs => ?_, hminor, hpatch⟩
    obtain ⟨-, -, hpins⟩ := hdigests hs
    exact ⟨hpins.1, hpins.2.1, hpins.2.2.1⟩

/-- Nothing is wrong with annotations exactly if there is no issue of any kind. -/
lemma resolve_eq_ok_iff_issues {o : Options} :
    resolve compiler a container = .ok o ↔
      issues compiler a container = [] ∧ ofReadable compiler a container = o := by
  unfold resolve
  cases issues compiler a container <;> simp

/-- Annotations are resolved to the options that they say, if these fit together. -/
theorem resolve_eq_ok_iff {o : Options} :
    resolve compiler a container = .ok o ↔ Decodes compiler a container o ∧ o.Consistent := by
  rw [resolve_eq_ok_iff_issues]
  simp only [issues, List.append_eq_nil_iff, and_assoc]
  constructor
  · rintro ⟨hsha, hmetadata, htags, hpattern, hmajor, hminor, hpatch, hconflict, hneed, hneed', rfl⟩
    have hdecodes : Decodes compiler a container (ofReadable compiler a container) :=
      { overrideUrl := rfl
        useSha := says_iff.2 ⟨hsha, rfl⟩
        useMetadata := says_iff.2 ⟨hmetadata, rfl⟩
        matchRegex := rel_run_iff.2 ⟨hpattern, rfl⟩
        pinMajor := rel_denotes_iff.2 ⟨hmajor, rfl⟩
        pinMinor := rel_denotes_iff.2 ⟨hminor, rfl⟩
        pinPatch := rel_denotes_iff.2 ⟨hpatch, rfl⟩
        resolveShaToTags := says_iff.2 ⟨htags, rfl⟩ }
    exact ⟨hdecodes, hdecodes.consistent_iff.2 ⟨hconflict, hneed, hneed'⟩⟩
  · rintro ⟨h, hconsistent⟩
    obtain ⟨hconflict, hneed, hneed'⟩ := h.consistent_iff.1 hconsistent
    obtain ⟨hsha, hsha'⟩ := says_iff.1 h.useSha
    obtain ⟨hmetadata, hmetadata'⟩ := says_iff.1 h.useMetadata
    obtain ⟨htags, htags'⟩ := says_iff.1 h.resolveShaToTags
    obtain ⟨hpattern, hpattern'⟩ := rel_run_iff.1 h.matchRegex
    obtain ⟨hmajor, hmajor'⟩ := rel_denotes_iff.1 h.pinMajor
    obtain ⟨hminor, hminor'⟩ := rel_denotes_iff.1 h.pinMinor
    obtain ⟨hpatch, hpatch'⟩ := rel_denotes_iff.1 h.pinPatch
    refine ⟨hsha, hmetadata, htags, hpattern, hmajor, hminor, hpatch, hconflict, hneed, hneed', ?_⟩
    rw [ofReadable, h.overrideUrl, hsha', hmetadata', htags', hpattern', hmajor', hminor', hpatch']

end

/-! ## Writing options down -/

/-- The texts of annotations that ask for options. -/
def texts (o : Options) : Setting → Option String
  | .enable => none
  | .useSha => if o.useSha then some "true" else none
  | .useMetadata => if o.useMetadata then some "true" else none
  | .matchRegex => o.matchRegex.map (·.text)
  | .pinMajor => o.pinMajor.map Text.wordText
  | .pinMinor => o.pinMinor.map Text.wordText
  | .pinPatch => o.pinPatch.map Text.wordText
  | .overrideUrl => o.overrideUrl
  | .resolveShaToTags => if o.resolveShaToTags then some "true" else none

/-- A truth value is written down as `true` or left out. -/
lemma says_ite (b : Bool) : Says (if b then some "true" else none) b := by
  cases b with
  | false => rfl
  | true =>
    show Spells "true" true
    decide

/-- The digits of a pin denote it. -/
lemma denotes_wordText (n : UInt64) : Denotes (Text.wordText n) n := by
  refine ⟨[], (Text.wordText n).toList, [], ?_, List.forall_mem_nil _, List.forall_mem_nil _,
    Text.isNumeral_wordText n⟩
  rw [List.append_nil, List.nil_append]

/-- What is written down for a value reads as it. -/
lemma rel_map {α : Type} {Reads : String → α → Prop} {write : α → String} {value : Option α}
    (h : ∀ x ∈ value, Reads (write x) x) : Option.Rel Reads (value.map write) value := by
  cases value with
  | none => exact .none
  | some x => exact .some (h x rfl)

/-- Options whose pattern the compiler makes of its text are what their texts say. -/
lemma decodes_texts {compiler : Pattern.Compiler} {o : Options} (container : String)
    (hpattern : ∀ p ∈ o.matchRegex, compiler.run p.text = .ok p) :
    Decodes compiler (.ofTexts container o.texts) container o := by
  have hpin : ∀ pin : Option UInt64, Option.Rel Denotes (pin.map Text.wordText) pin := fun pin =>
    rel_map fun n _ => denotes_wordText n
  constructor <;> rw [Annotations.setting?_ofTexts]
  · rfl
  · exact says_ite o.useSha
  · exact says_ite o.useMetadata
  · exact rel_map hpattern
  · exact hpin o.pinMajor
  · exact hpin o.pinMinor
  · exact hpin o.pinPatch
  · exact says_ite o.resolveShaToTags

/-- **The image of resolving.**  Whatever the compiler of patterns is, annotations are resolved to options exactly if
they say just these and the options fit together.  For any container there are annotations, with no key twice, that
are resolved to given options, exactly if the options fit together and the compiler makes their pattern of its
text. -/
theorem resolve_eq_ok_iff_consistent (compiler : Pattern.Compiler) (container : String) (o : Options) :
    (∀ a, resolve compiler a container = .ok o ↔ Decodes compiler a container o ∧ o.Consistent) ∧
    ((∃ a : Annotations, (a.entries.map (·.1)).Nodup ∧ resolve compiler a container = .ok o) ↔
      o.Consistent ∧ ∀ p ∈ o.matchRegex, compiler.run p.text = .ok p) := by
  refine ⟨fun a => resolve_eq_ok_iff, ?_, fun ⟨hconsistent, hpattern⟩ => ?_⟩
  · rintro ⟨a, -, ha⟩
    obtain ⟨hdecodes, hconsistent⟩ := resolve_eq_ok_iff.1 ha
    refine ⟨hconsistent, ?_⟩
    intro p hp
    -- a pattern keeps the text that it is made of
    have hrel := hdecodes.matchRegex
    rw [hp] at hrel
    obtain ⟨text, htext⟩ : ∃ text, compiler.run text = .ok p := by
      generalize a.setting? .matchRegex container = text? at hrel
      cases hrel with
      | some h => exact ⟨_, h⟩
    rw [compiler.text_of_run htext]
    exact htext
  · exact ⟨.ofTexts container o.texts, Annotations.nodup_ofTexts container o.texts,
      resolve_eq_ok_iff.2 ⟨decodes_texts container hpattern, hconsistent⟩⟩

end Freshness.Options
