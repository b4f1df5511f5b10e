import Freshness.Number.Reading
import Freshness.Proofs.Number.Word
import Freshness.Proofs.Text.Numeral
import Mathlib.Data.Nat.Digits.Defs

/-!
# Decimal digits read as numbers

Digits denote one number to every reader: to the reader of signed words as long as the number fits into one
(`readSignedWord?_of_digitsValue?`), and to the reader of numbers with a binary point as far as a mantissa can
hold it (`readBinary64?_of_digitsValue?`).  No word of letters is a text of digits.
-/

namespace Freshness.Text

variable {s : List Char} {n : Nat}

/-! ## Digits and letters -/

/-- Digits have no letter case. -/
lemma map_toLower_of_isDigit (h : ∀ c ∈ s, c.isDigit = true) : s.map Char.toLower = s := by
  have hsame : ∀ c ∈ s, c.toLower = id c := fun c hc => by
    have hrange : 48 ≤ c.val.toNat ∧ c.val.toNat ≤ 57 := toNat_of_isDigit (h c hc)
    have hupper : ¬(c.val ≥ 'A'.val ∧ c.val ≤ 'Z'.val) := by
      have hfirst : 'A'.val.toNat = 65 := rfl
      rw [ge_iff_le, UInt32.le_iff_toNat_le, UInt32.le_iff_toNat_le]
      omega
    exact dif_neg hupper
  exact (List.map_congr_left hsame).trans (List.map_id s)

/-- A text of digits is no text with a character that is not a digit. -/
lemma ofList_ne_of_isDigit (h : ∀ c ∈ s, c.isDigit = true) {w : String}
    (hw : w.toList.all Char.isDigit = false) : String.ofList s ≠ w := by
  rintro rfl
  rw [String.toList_ofList, List.all_eq_true.2 h] at hw
  cases hw

/-- Digits begin with no sign. -/
lemma splitSign_of_isDigit (h : ∀ c ∈ s, c.isDigit = true) : splitSign s = (false, s) := by
  cases s with
  | nil => rfl
  | cons c rest => exact splitSign_of_digit (h c List.mem_cons_self) rest

/-- Digits have no point. -/
lemma splitPoint_of_isDigit (h : ∀ c ∈ s, c.isDigit = true) : splitPoint s = (s, [], []) := by
  have htake : s.takeWhile Char.isDigit = s := List.takeWhile_eq_self_iff.2 h
  have hdrop : s.dropWhile Char.isDigit = [] := List.dropWhile_eq_nil_iff.2 h
  unfold splitPoint
  rw [htake, hdrop]

/-! ## The readers -/

/-- Digits denote a signed word if their number fits into one. -/
lemma readSignedWord?_of_digitsValue? (h : digitsValue? s = some n) :
    readSignedWord? s = if n < 2 ^ 63 then some (n : Int) else none := by
  obtain ⟨-, hdigits, -⟩ := digitsValue?_eq_some_iff.1 h
  have hleast : Int64.minValue.toInt = -2 ^ 63 := rfl
  have hgreatest : Int64.maxValue.toInt = 2 ^ 63 - 1 := rfl
  have hread : readInteger? s = some (n : Int) := by
    unfold readInteger?
    rw [splitSign_of_isDigit hdigits]
    dsimp only
    rw [h]
    rfl
  unfold readSignedWord?
  rw [hread, Option.filter_some, hleast, hgreatest]
  by_cases hn : n < 2 ^ 63
  · rw [if_pos hn, if_pos (decide_eq_true (by omega))]
  · rw [if_neg hn, if_neg (by rw [decide_eq_true_iff]; omega)]

/-- Digits denote the number with a binary point that is nearest to theirs. -/
lemma readBinary64?_of_digitsValue? (h : digitsValue? s = some n) :
    readBinary64? s = some (.ofDecimal false n 0) := by
  obtain ⟨-, hdigits, -⟩ := digitsValue?_eq_some_iff.1 h
  have hnan : String.ofList s ≠ "nan" := ofList_ne_of_isDigit hdigits (by decide)
  have hinf : ¬(String.ofList s = "inf" ∨ String.ofList s = "infinity") := by
    rintro (heq | heq)
    · exact ofList_ne_of_isDigit hdigits (by decide) heq
    · exact ofList_ne_of_isDigit hdigits (by decide) heq
  unfold readBinary64?
  rw [splitSign_of_isDigit hdigits]
  dsimp only
  unfold readUnsigned?
  dsimp only
  rw [map_toLower_of_isDigit hdigits, if_neg hnan, if_neg hinf, splitPoint_of_isDigit hdigits]
  dsimp only
  rw [List.append_nil, h]
  rfl

/-- A number that fits into a word is in range as a number of decimal units. -/
lemma ofDecimal_of_lt (hpos : 0 < n) (hn : n < UInt64.size) :
    Binary64.ofDecimal false n 0 = .ofRatio false n 1 := by
  have hsize : UInt64.size < 10 ^ 20 := by decide
  have hlength : (Nat.toDigits 10 n).length ≤ 20 :=
    Nat.toDigits_length 10 n 20 (by decide) (hn.trans hsize)
  unfold Binary64.ofDecimal
  dsimp only
  rw [if_neg (by omega), if_neg (by omega)]
  rw [show (0 : Int).toNat = 0 from rfl, show (-0 : Int).toNat = 0 from rfl]
  rw [show Nat.pow 10 0 = 1 from rfl, Nat.mul_one]

end Freshness.Text
