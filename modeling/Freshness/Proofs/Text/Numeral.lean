import Freshness.Text.Blank
import Freshness.Text.Decimal
import Mathlib.Data.List.TakeWhile

/-!
# Numerals between white space

A numeral is an optional plus sign followed by decimal digits, as many zeros first as one likes
(`IsNumeral`).  The reader of words accepts just the numerals of numbers that fit into a word, and reads the
number (`readWord?_eq_some_iff`).  White space around a numeral is no part of it: what is left of a text when
the white space at its ends is taken away is a numeral exactly if the text is a numeral between white space
(`readWord?_trim_eq_some_iff`).
-/

namespace Freshness.Text

/-- A text is a numeral of a number: decimal digits with this value, and a plus sign or nothing before them. -/
def IsNumeral (s : List Char) (n : Nat) : Prop :=
  ∃ sign digits : List Char, s = sign ++ digits ∧ (sign = [] ∨ sign = ['+']) ∧ digits ≠ [] ∧
    (∀ c ∈ digits, c.isDigit = true) ∧ Nat.ofDigitChars 10 digits 0 = n

/-! ## White space -/

/-- The digits are characters in a row. -/
lemma toNat_of_isDigit {c : Char} (h : c.isDigit = true) : 48 ≤ c.toNat ∧ c.toNat ≤ 57 := by
  simpa [Char.isDigit, UInt32.le_iff_toNat_le] using h

/-- A digit is no white space. -/
lemma isBlank_eq_false_of_isDigit {c : Char} (h : c.isDigit = true) : isBlank c = false := by
  obtain ⟨hlow, hhigh⟩ := toNat_of_isDigit h
  simp only [isBlank, Bool.or_eq_false_iff, Bool.and_eq_false_iff, decide_eq_false_iff_not, beq_eq_false_iff_ne]
  omega

/-- No character of a numeral is white space. -/
lemma IsNumeral.isBlank_eq_false {s : List Char} {n : Nat} (h : IsNumeral s n) :
    ∀ c ∈ s, isBlank c = false := by
  obtain ⟨sign, digits, rfl, hsign, -, hdigits, -⟩ := h
  intro c hc
  rcases List.mem_append.1 hc with hmem | hmem
  · rcases hsign with rfl | rfl
    · exact absurd hmem List.not_mem_nil
    · obtain rfl := List.mem_singleton.1 hmem
      rfl
  · exact isBlank_eq_false_of_isDigit (hdigits c hmem)

/-- A numeral has characters. -/
lemma IsNumeral.ne_nil {s : List Char} {n : Nat} (h : IsNumeral s n) : s ≠ [] := by
  obtain ⟨sign, digits, rfl, -, hne, -, -⟩ := h
  exact List.append_ne_nil_of_right_ne_nil sign hne

/-- The white space before a text that does not begin with any is taken away. -/
lemma trimStart_append {lead core : List Char} (hlead : ∀ c ∈ lead, isBlank c = true)
    (hne : core ≠ []) (hcore : ∀ c ∈ core, isBlank c = false) (rest : List Char) :
    trimStart (lead ++ (core ++ rest)) = core ++ rest := by
  obtain ⟨c, core, rfl⟩ := List.exists_cons_of_ne_nil hne
  have hc : isBlank c = false := hcore c List.mem_cons_self
  rw [trimStart, List.dropWhile_append_of_pos hlead, List.cons_append,
    List.dropWhile_cons_of_neg (by rw [hc]; exact Bool.false_ne_true)]

/-- A text without white space is what is left of it between white space. -/
lemma trim_append {lead core trail : List Char} (hlead : ∀ c ∈ lead, isBlank c = true)
    (htrail : ∀ c ∈ trail, isBlank c = true) (hne : core ≠ [])
    (hcore : ∀ c ∈ core, isBlank c = false) : trim (lead ++ (core ++ trail)) = core := by
  have hback : trimStart (trail.reverse ++ (core.reverse ++ [])) = core.reverse ++ [] := by
    refine trimStart_append (fun c hc => htrail c (List.mem_reverse.1 hc)) ?_ (fun c hc => ?_) []
    · exact fun hnil => hne (List.reverse_eq_nil_iff.1 hnil)
    · exact hcore c (List.mem_reverse.1 hc)
  rw [List.append_nil] at hback
  rw [trim, trimStart_append hlead hne hcore, List.reverse_append, hback, List.reverse_reverse]

/-- What is taken away from the ends of a text is white space. -/
lemma exists_eq_append_trim (s : List Char) :
    ∃ lead trail, s = lead ++ (trim s ++ trail) ∧ (∀ c ∈ lead, isBlank c = true) ∧
      ∀ c ∈ trail, isBlank c = true := by
  refine ⟨s.takeWhile isBlank, ((trimStart s).reverse.takeWhile isBlank).reverse, ?_, fun c hc => ?_,
    fun c hc => ?_⟩
  · have hback : trim s ++ ((trimStart s).reverse.takeWhile isBlank).reverse = trimStart s := by
      rw [trim, ← List.reverse_append]
      exact (congrArg List.reverse List.takeWhile_append_dropWhile).trans (List.reverse_reverse _)
    rw [hback]
    exact List.takeWhile_append_dropWhile.symm
  · exact List.mem_takeWhile_imp hc
  · exact List.mem_takeWhile_imp (List.mem_reverse.1 hc)

/-! ## Words -/

/-- Digits have the value that they have as a decimal number. -/
lemma digitsValue?_eq_some_iff {s : List Char} {n : Nat} :
    digitsValue? s = some n ↔
      s ≠ [] ∧ (∀ c ∈ s, c.isDigit = true) ∧ Nat.ofDigitChars 10 s 0 = n := by
  have hfold : s.foldl (fun n c => n * 10 + (c.toNat - '0'.toNat)) 0 = Nat.ofDigitChars 10 s 0 := by
    rw [Nat.ofDigitChars_eq_foldl]
    simp only [Nat.mul_comm]
  rw [digitsValue?, hfold, Option.ite_none_left_eq_some, not_or, not_not, List.isEmpty_iff, List.all_eq_true,
    Option.some.injEq, and_assoc]

/-- A text without a plus sign at its start loses nothing. -/
lemma dropPlus_of_isDigit {s : List Char} (h : ∀ c ∈ s, c.isDigit = true) : dropPlus s = s := by
  unfold dropPlus
  split
  · exact absurd (h '+' List.mem_cons_self) (by decide)
  · rfl

/-- A text is a plus sign or nothing, and what is left without it. -/
lemma exists_sign_append_dropPlus (s : List Char) :
    ∃ sign, s = sign ++ dropPlus s ∧ (sign = [] ∨ sign = ['+']) := by
  unfold dropPlus
  split
  · exact ⟨['+'], rfl, .inr rfl⟩
  · exact ⟨[], rfl, .inl rfl⟩

/-- The numerals of numbers that fit into a word are read, and no other text is. -/
lemma readWord?_eq_some_iff {s : List Char} {n : UInt64} :
    readWord? s = some n ↔ IsNumeral s n.toNat := by
  have hword : ∀ m : Nat, (if m < UInt64.size then some (UInt64.ofNat m) else none) = some n ↔
      m = n.toNat := by
    intro m
    rw [Option.ite_none_right_eq_some, Option.some.injEq]
    constructor
    · rintro ⟨hm, rfl⟩
      exact (UInt64.toNat_ofNat_of_lt hm).symm
    · rintro rfl
      exact ⟨n.toNat_lt, UInt64.ofNat_toNat⟩
  simp only [readWord?, Option.bind_eq_some_iff, hword, exists_eq_right, digitsValue?_eq_some_iff]
  constructor
  · rintro ⟨hne, hdigits, hvalue⟩
    obtain ⟨sign, hs, hsign⟩ := exists_sign_append_dropPlus s
    exact ⟨sign, dropPlus s, hs, hsign, hne, hdigits, hvalue⟩
  · rintro ⟨sign, digits, rfl, hsign, hne, hdigits, hvalue⟩
    have hdrop : dropPlus (sign ++ digits) = digits := by
      rcases hsign with rfl | rfl
      · exact dropPlus_of_isDigit hdigits
      · rfl
    rw [hdrop]
    exact ⟨hne, hdigits, hvalue⟩

/-- What is left between white space is read as a word exactly if the text is a numeral between white space. -/
theorem readWord?_trim_eq_some_iff {s : List Char} {n : UInt64} :
    readWord? (trim s) = some n ↔
      ∃ lead core trail, s = lead ++ (core ++ trail) ∧ (∀ c ∈ lead, isBlank c = true) ∧
        (∀ c ∈ trail, isBlank c = true) ∧ IsNumeral core n.toNat := by
  rw [readWord?_eq_some_iff]
  constructor
  · intro h
    obtain ⟨lead, trail, hs, hlead, htrail⟩ := exists_eq_append_trim s
    exact ⟨lead, trim s, trail, hs, hlead, htrail, h⟩
  · rintro ⟨lead, core, trail, rfl, hlead, htrail, h⟩
    rwa [trim_append hlead htrail h.ne_nil h.isBlank_eq_false]

/-- The text of a word is its decimal digits. -/
lemma digitsValue?_wordText (n : UInt64) : digitsValue? (wordText n).toList = some n.toNat := by
  have htext : (wordText n).toList = Nat.toDigits 10 n.toNat := by
    rw [wordText, Nat.toString_eq_ofList_toDigits, String.toList_ofList]
  rw [htext, digitsValue?_eq_some_iff]
  refine ⟨Nat.toDigits_ne_nil, fun c hc => ?_, ?_⟩
  · exact Nat.isDigit_of_mem_toDigits (by decide) (by decide) hc
  · exact Nat.ofDigitChars_ten_toDigits

/-- The decimal digits of a word are a numeral of it. -/
lemma isNumeral_wordText (n : UInt64) : IsNumeral (wordText n).toList n.toNat := by
  obtain ⟨hne, hdigits, hvalue⟩ := digitsValue?_eq_some_iff.1 (digitsValue?_wordText n)
  exact ⟨[], (wordText n).toList, rfl, .inl rfl, hne, hdigits, hvalue⟩

end Freshness.Text
