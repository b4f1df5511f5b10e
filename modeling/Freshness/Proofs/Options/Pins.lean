import Freshness.Proofs.Options.Image

/-!
# Pins

A pin is read from a numeral between white space (`IsNumber`): decimal digits, as many zeros first as one likes,
and a plus sign or nothing before them.  The numeral may be that of any number, and a pin is read exactly if the
number fits into a word; nothing is cut off a number that does not (`pin?_eq_some_iff_isNumber`).  A text that is
not read is reported by one issue of its own, which stands among all issues of the container and shows the text with
its white space (`filter_isInvalidPin_issues`).

`pin_of_text` puts this together for any annotations in which the setting of a pin has a text.
-/

namespace Freshness

/-- The settings that are pins. -/
def Setting.pins : List Setting := [.pinMajor, .pinMinor, .pinPatch]

/-- Whether an issue says of a key that its text is no pin. -/
def Issue.isInvalidPin (key : String) : Issue → Bool
  | invalidPin k _ => k == key
  | _ => false

namespace Options

/-- The pin of a setting in options. -/
def pinOf (o : Options) : Setting → Option UInt64
  | .pinMajor => o.pinMajor
  | .pinMinor => o.pinMinor
  | .pinPatch => o.pinPatch
  | _ => none

/-- A text is a numeral of a number between white space, however great the number is. -/
def IsNumber (text : String) (m : Nat) : Prop :=
  ∃ lead numeral trail : List Char, text.toList = lead ++ (numeral ++ trail) ∧
    (∀ c ∈ lead, Text.isBlank c = true) ∧ (∀ c ∈ trail, Text.isBlank c = true) ∧ Text.IsNumeral numeral m

/-! ## Numerals -/

/-- Zeros have no value. -/
lemma ofDigitChars_replicate_zero (zeros : Nat) : Nat.ofDigitChars 10 (List.replicate zeros '0') 0 = 0 := by
  induction zeros with
  | zero => rfl
  | succ zeros ih =>
    rw [List.replicate_succ, Nat.ofDigitChars_cons]
    exact ih

/-- The decimal digits of a word are a numeral of it, also after a plus sign and zeros. -/
lemma isNumeral_append_wordText {sign : List Char} (hsign : sign = [] ∨ sign = ['+']) (zeros : Nat) (n : UInt64) :
    Text.IsNumeral (sign ++ (List.replicate zeros '0' ++ (Text.wordText n).toList)) n.toNat := by
  obtain ⟨hne, hdigits, hvalue⟩ := Text.digitsValue?_eq_some_iff.1 (Text.digitsValue?_wordText n)
  refine ⟨sign, _, rfl, hsign, List.append_ne_nil_of_right_ne_nil _ hne, ?_, ?_⟩
  · intro c hc
    rcases List.mem_append.1 hc with hzero | hdigit
    · rw [List.eq_of_mem_replicate hzero]
      rfl
    · exact hdigits c hdigit
  · rw [Nat.ofDigitChars_append, ofDigitChars_replicate_zero, hvalue]

section

variable {compiler : Pattern.Compiler} {a : Annotations} {container text : String} {s : Setting}

/-! ## Reading a pin -/

/-- A pin is the number of its text. -/
lemma pin?_eq_some_iff_isNumber (htext : a.setting? s container = some text) {n : UInt64} :
    pin? a container s = some n ↔ IsNumber text n.toNat := by
  unfold pin?
  rw [htext, Option.bind_some]
  exact readPin?_eq_some_iff

/-- There is no pin if the text is no number that fits into a word. -/
lemma pin?_eq_none_iff (htext : a.setting? s container = some text) :
    pin? a container s = none ↔ ∀ m < UInt64.size, ¬IsNumber text m := by
  rw [Option.eq_none_iff_forall_ne_some]
  constructor
  · intro hnone m hm hnumber
    have hword : (UInt64.ofNat m).toNat = m := UInt64.toNat_ofNat_of_lt hm
    refine hnone (UInt64.ofNat m) ((pin?_eq_some_iff_isNumber htext).2 ?_)
    rwa [hword]
  · intro hnumber n hn
    exact hnumber n.toNat n.toNat_lt ((pin?_eq_some_iff_isNumber htext).1 hn)

/-- The issue of a pin is there if the pin is not, and shows the text as it stands in the annotations. -/
lemma pinIssues_eq_ite (htext : a.setting? s container = some text) :
    pinIssues a container s =
      if pin? a container s = none then [.invalidPin (s.key container) text] else [] := by
  unfold pinIssues pin?
  rw [htext, Option.bind_some]
  simp only [Option.isNone_iff_eq_none]

/-! ## The issue of a pin among all issues -/

/-- What is found for a rule reports a violation of it. -/
lemma reports_of_mem_issuesOf {r : Rule} {i : Issue} (h : i ∈ issuesOf compiler a container r) :
    r.Reports compiler a container i := by
  rcases finds_issuesOf compiler a container r with ⟨-, j, hfound, hj⟩ | ⟨-, hfound⟩
  · rw [hfound, List.mem_singleton] at h
    rwa [h]
  · rw [hfound] at h
    exact absurd h List.not_mem_nil

/-- That the text of a setting is no pin is said by reports of one rule only. -/
lemma isInvalidPin_iff_of_reports {r : Rule} {i : Issue} (h : r.Reports compiler a container i) :
    i.isInvalidPin (s.key container) = true ↔ r = .number s := by
  cases h with
  | @number t text htext =>
    have hkey : t.key container = s.key container ↔ t = s := by
      rw [Setting.key_eq_key_iff]
      exact and_iff_left rfl
    calc (Issue.invalidPin (t.key container) text).isInvalidPin (s.key container) = true
        ↔ t.key container = s.key container := beq_iff_eq
      _ ↔ Rule.number t = .number s := by rw [hkey, Rule.number.injEq]
  | _ => exact iff_of_false Bool.false_ne_true (fun heq => nomatch heq)

/-- Of what is found for a rule, all or nothing says that the text of a setting is no pin. -/
lemma filter_isInvalidPin_issuesOf (r : Rule) :
    (issuesOf compiler a container r).filter (Issue.isInvalidPin (s.key container)) =
      if r = .number s then pinIssues a container s else [] := by
  by_cases hr : r = .number s
  · rw [if_pos hr, hr]
    refine List.filter_eq_self.2 ?_
    intro i hi
    exact (isInvalidPin_iff_of_reports (reports_of_mem_issuesOf hi)).2 rfl
  · rw [if_neg hr, List.filter_eq_nil_iff]
    intro i hi hpin
    exact hr ((isInvalidPin_iff_of_reports (reports_of_mem_issuesOf hi)).1 hpin)

/-- Of all issues of a container, those that say that the text of a pin is none are the issue of this pin. -/
lemma filter_isInvalidPin_issues (hs : s ∈ Setting.pins) :
    (issues compiler a container).filter (Issue.isInvalidPin (s.key container)) = pinIssues a container s := by
  have honce : ∀ s ∈ Setting.pins, ∀ found : List Issue,
      (Rule.all.flatMap fun r => if r = .number s then found else []) = found := by
    simp [Setting.pins, Rule.all]
  rw [issues_eq_flatMap, List.filter_flatMap]
  simp only [filter_isInvalidPin_issuesOf]
  exact honce s hs _

/-! ## Resolved pins -/

/-- The options that are resolved have the pins that are read. -/
lemma pinOf_of_resolve (hs : s ∈ Setting.pins) {o : Options} (h : resolve compiler a container = .ok o) :
    o.pinOf s = pin? a container s := by
  obtain ⟨-, rfl⟩ := resolve_eq_ok_iff_issues.1 h
  simp only [Setting.pins, List.mem_cons, List.not_mem_nil, or_false] at hs
  rcases hs with rfl | rfl | rfl <;> rfl

/-- A number as the only text of a container is resolved to the pin of the greatest part. -/
lemma resolve_ofTexts_pinMajor {n : UInt64} (h : IsNumber text n.toNat) (container : String) :
    resolve compiler (.ofTexts container fun s => if s = .pinMajor then some text else none) container =
      .ok { pinMajor := some n } := by
  have hdecodes : Decodes compiler (.ofTexts container fun s => if s = .pinMajor then some text else none)
      container { pinMajor := some n } := by
    constructor <;> rw [Annotations.setting?_ofTexts]
    case pinMajor => exact .some h
    case matchRegex | pinMinor | pinPatch => exact .none
    all_goals rfl
  refine resolve_eq_ok_iff.2 ⟨hdecodes, ?_⟩
  constructor <;> simp

end

/-- **Pins.**  Let the setting of a pin have a text.  The pin is a word exactly if the text is a numeral of this word
between white space.  If the text is no numeral of a number that fits into a word, there is no pin, resolving fails
whatever the compiler of patterns is, and the failure has one issue about this pin, with the text as it stands there;
otherwise no failure has any, and resolved options have the number as their pin.  In particular the decimal digits of
a word, with any zeros and a plus sign or none before them and any white space around, are read as the word, and are
enough for options with this pin. -/
theorem pin_of_text {compiler : Pattern.Compiler} {a : Annotations} {container text : String} {s : Setting}
    (hs : s ∈ Setting.pins) (htext : a.setting? s container = some text) :
    (∀ n : UInt64, pin? a container s = some n ↔ IsNumber text n.toNat) ∧
    ((∀ m < UInt64.size, ¬IsNumber text m) → pin? a container s = none ∧
      ∃ found, resolve compiler a container = .error found ∧
        found.filter (Issue.isInvalidPin (s.key container)) = [.invalidPin (s.key container) text]) ∧
    (∀ m < UInt64.size, IsNumber text m →
      (∀ found, resolve compiler a container = .error found →
        found.filter (Issue.isInvalidPin (s.key container)) = []) ∧
      ∀ o, resolve compiler a container = .ok o → (o.pinOf s).map (·.toNat) = some m) ∧
    ∀ (n : UInt64) (lead sign trail : List Char) (zeros : Nat), (∀ c ∈ lead, Text.isBlank c = true) →
      (∀ c ∈ trail, Text.isBlank c = true) → sign = [] ∨ sign = ['+'] →
      text.toList = lead ++ ((sign ++ (List.replicate zeros '0' ++ (Text.wordText n).toList)) ++ trail) →
      pin? a container s = some n ∧
      resolve compiler (.ofTexts container fun s => if s = .pinMajor then some text else none) container =
        .ok { pinMajor := some n } := by
  have hissues : ∀ {found}, resolve compiler a container = .error found →
      found.filter (Issue.isInvalidPin (s.key container)) =
        if pin? a container s = none then [.invalidPin (s.key container) text] else [] := by
    intro found h
    obtain ⟨-, rfl⟩ := resolve_eq_error_iff.1 h
    rw [filter_isInvalidPin_issues hs, pinIssues_eq_ite htext]
  refine ⟨fun n => pin?_eq_some_iff_isNumber htext, fun hnot => ?_, fun m hm hnumber => ?_, ?_⟩
  · have hnone := (pin?_eq_none_iff htext).2 hnot
    have hfound : Issue.invalidPin (s.key container) text ∈ issues compiler a container := by
      refine List.mem_of_mem_filter (p := Issue.isInvalidPin (s.key container)) ?_
      rw [filter_isInvalidPin_issues hs, pinIssues_eq_ite htext, if_pos hnone]
      exact List.mem_singleton_self _
    have herror : resolve compiler a container = .error (issues compiler a container) :=
      resolve_eq_error_iff.2 ⟨List.ne_nil_of_mem hfound, rfl⟩
    refine ⟨hnone, issues compiler a container, herror, ?_⟩
    rw [hissues herror, if_pos hnone]
  · have hword : (UInt64.ofNat m).toNat = m := UInt64.toNat_ofNat_of_lt hm
    have hpin : pin? a container s = some (UInt64.ofNat m) := by
      rw [pin?_eq_some_iff_isNumber htext, hword]
      exact hnumber
    refine ⟨fun found herror => ?_, fun o ho => ?_⟩
    · rw [hissues herror, hpin, if_neg (Option.some_ne_none _)]
    · rw [pinOf_of_resolve hs ho, hpin, Option.map_some, hword]
  · intro n lead sign trail zeros hlead htrail hsign heq
    have hnumber : IsNumber text n.toNat :=
      ⟨lead, _, trail, heq, hlead, htrail, isNumeral_append_wordText hsign zeros n⟩
    exact ⟨(pin?_eq_some_iff_isNumber htext).2 hnumber, resolve_ofTexts_pinMajor hnumber container⟩

/-- The greatest word with a plus sign, zeros and white space of three kinds. -/
theorem pin_of_text_greatest :
    let text := "\u2003 +0018446744073709551615\n"
    let a : Annotations := ⟨[(Setting.pinMinor.key "app", text)]⟩
    Setting.pinMinor ∈ Setting.pins ∧ a.setting? .pinMinor "app" = some text ∧
    pin? a "app" .pinMinor = some 18446744073709551615 ∧
    resolve Pattern.compiler (.ofTexts "app" fun s => if s = .pinMajor then some text else none) "app" =
      .ok { pinMajor := some 18446744073709551615 } := by
  intro text a
  have hs : Setting.pinMinor ∈ Setting.pins := by decide
  have htext : a.setting? .pinMinor "app" = some text := by decide
  obtain ⟨-, -, -, hdigits⟩ := pin_of_text hs htext
  have hlead : ['\u2003', ' '].all Text.isBlank = true := by decide
  have htrail : ['\n'].all Text.isBlank = true := by decide
  have hread := hdigits 18446744073709551615 ['\u2003', ' '] ['+'] ['\n'] 2 (List.all_eq_true.1 hlead)
    (List.all_eq_true.1 htrail) (.inr rfl) (by decide +kernel)
  exact ⟨hs, htext, hread⟩

/-- Texts that are no pins: without digits, with a minus sign or two plus signs, with white space or digits of another
script inside, and with the least number that does not fit into a word. -/
example :
    ["", " ", "+", "-0", "++1", "1 2", "+ 1", "٣", "18446744073709551616"].map readPin? =
      List.replicate 9 none := by
  decide +kernel

end Options

end Freshness
