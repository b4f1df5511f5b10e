import Freshness.Number.Binary64
import Mathlib.Data.Nat.Log
import Mathlib.Tactic.Ring

/-!
# Whole numbers as binary numbers of 64 bits

A mantissa has 53 bits, so that a whole number of more bits is rounded to a multiple of a power of two: to the
nearest one (`roundEven_near`), which is the number itself exactly if this is such a multiple
(`roundEven_mul_eq_iff`).  The unsigned word of the rounded number is this multiple, or the greatest word if it
does not fit (`toWord_ofRatio_one`).  So of the words that need all their 64 bits only the multiples of 2048 come
through the rounding as they are, and the greatest word itself (`roundedWord_eq_self_iff`).
-/

namespace Freshness.Binary64

/-! ## Rounding to whole numbers -/

variable {den n k : Nat}

/-- A rounded quotient is no more than one half away from the quotient. -/
lemma roundEven_near (num : Nat) (hden : 0 < den) :
    2 * num ≤ 2 * (roundEven num den * den) + den ∧ 2 * (roundEven num den * den) ≤ 2 * num + den := by
  have hdiv : num / den * den + num % den = num := Nat.div_add_mod' num den
  have hrest : num % den < den := Nat.mod_lt num hden
  have hnext : (num / den + 1) * den = num / den * den + den := Nat.succ_mul _ _
  unfold roundEven
  dsimp only
  split
  · omega
  · omega

/-- Rounding leaves exactly the quotients that are whole numbers. -/
lemma roundEven_mul_eq_iff (num : Nat) (hden : 0 < den) : roundEven num den * den = num ↔ den ∣ num := by
  constructor
  · intro h
    exact ⟨roundEven num den, by rw [Nat.mul_comm, h]⟩
  · rintro ⟨whole, rfl⟩
    have hrest : den * whole % den = 0 := Nat.mul_mod_right den whole
    unfold roundEven
    dsimp only
    rw [hrest, if_pos (.inl (by omega)), Nat.mul_div_cancel_left whole hden, Nat.mul_comm]

/-! ## Whole numbers with more bits than a mantissa -/

/-- The power of two to an exponent that is not positive, as a whole number. -/
lemma pow_toNat_neg (k : Nat) : Nat.pow 2 (-(k : Int)).toNat = 1 := by
  have hneg : (-(k : Int)).toNat = 0 := by omega
  exact (congrArg (Nat.pow 2) hneg).trans rfl

/-- A whole number of units is itself when it is rounded away. -/
lemma roundAway_natCast (m q : Nat) : roundAway m q = m * 2 ^ q := by
  unfold roundAway
  rw [pow_toNat_neg, Int.toNat_natCast, Nat.pow_eq]
  dsimp only
  omega

/-- A whole number counted in units of a power of two. -/
lemma inUnits_one (n k : Nat) : inUnits n 1 k = (n, 2 ^ k) := by
  unfold inUnits
  rw [pow_toNat_neg, Int.toNat_natCast, Nat.pow_eq, Nat.mul_one, Nat.one_mul]

/-- A whole number of `k + 54` bits has its mantissa at the exponent `k + 1`. -/
lemma exponentOf_one (hlow : 2 ^ (k + 53) ≤ n) (hhigh : n < 2 ^ (k + 54)) :
    exponentOf n 1 = (k + 1 : Nat) := by
  have hne : n ≠ 0 := (Nat.lt_of_lt_of_le (Nat.two_pow_pos _) hlow).ne'
  have hlog : n.log2 = k + 53 := (Nat.log2_eq_iff hne).2 ⟨hlow, hhigh⟩
  have hlog' : Nat.log2 1 = 0 := rfl
  have hleast : max leastExponent ((k + 53 : Nat) - (0 : Nat) - 53 : Int) = k := by
    unfold leastExponent
    omega
  have hfull : ¬n / 2 ^ k < 2 ^ 53 := by
    rw [Nat.div_lt_iff_lt_mul (Nat.two_pow_pos k), ← Nat.pow_add, Nat.add_comm 53 k]
    omega
  unfold exponentOf
  rw [hlog, hlog', hleast]
  dsimp only
  rw [inUnits_one]
  dsimp only
  rw [Nat.pow_eq, if_neg hfull]
  omega

/-- A whole number of `k + 54` bits becomes the nearest multiple of `2 ^ (k + 1)` as a word, or the greatest
word if this multiple does not fit. -/
theorem toWord_ofRatio_one (hlow : 2 ^ (k + 53) ≤ n) (hhigh : n < 2 ^ (k + 54)) (hk : k + 2 ≤ 971) :
    (ofRatio false n 1).toWord =
      UInt64.ofNat (min (roundEven n (2 ^ (k + 1)) * 2 ^ (k + 1)) (UInt64.size - 1)) := by
  have hne : n ≠ 0 := (Nat.lt_of_lt_of_le (Nat.two_pow_pos _) hlow).ne'
  unfold ofRatio
  rw [if_neg hne, exponentOf_one hlow hhigh]
  dsimp only
  rw [inUnits_one]
  dsimp only
  by_cases hcarry : roundEven n (2 ^ (k + 1)) = Nat.pow 2 53
  · -- the mantissa has become one bit too long
    have hrange : ¬((k + 1 : Nat) : Int) + 1 > greatestExponent := by
      unfold greatestExponent
      omega
    rw [if_pos hcarry]
    dsimp only
    rw [if_neg hrange, hcarry]
    have hexponent : ((k + 1 : Nat) : Int) + 1 = (k + 2 : Nat) := by omega
    have hmul : Nat.pow 2 52 * 2 ^ (k + 2) = Nat.pow 2 53 * 2 ^ (k + 1) := by
      rw [Nat.pow_eq, Nat.pow_eq]
      ring
    rw [hexponent, toWord, roundAway_natCast, hmul]
  · have hrange : ¬((k + 1 : Nat) : Int) > greatestExponent := by
      unfold greatestExponent
      omega
    rw [if_neg hcarry]
    dsimp only
    rw [if_neg hrange, toWord, roundAway_natCast]

/-! ## Words -/

/-- The word that becomes of a word as a binary number: itself if it needs no more than 63 bits, and else the
nearest multiple of 2048, or the greatest word if this does not fit. -/
def roundedWord (n : UInt64) : UInt64 :=
  if n.toNat < 2 ^ 63 then n
  else UInt64.ofNat (min (roundEven n.toNat 2048 * 2048) (UInt64.size - 1))

/-- A word that needs all its bits becomes, as a binary number, its rounded word. -/
lemma toWord_ofRatio_toNat {n : UInt64} (hn : 2 ^ 63 ≤ n.toNat) :
    (ofRatio false n.toNat 1).toWord = roundedWord n := by
  have hround := toWord_ofRatio_one (k := 10) hn n.toNat_lt (by decide)
  unfold roundedWord
  rw [if_neg (Nat.not_lt.2 hn), hround]
  rfl

/-- The number of a rounded word. -/
lemma toNat_roundedWord (n : UInt64) :
    (roundedWord n).toNat =
      if n.toNat < 2 ^ 63 then n.toNat else min (roundEven n.toNat 2048 * 2048) (UInt64.size - 1) := by
  have hsize : 0 < UInt64.size := by decide
  have hfits : min (roundEven n.toNat 2048 * 2048) (UInt64.size - 1) < UInt64.size := by omega
  unfold roundedWord
  split
  · rfl
  · exact UInt64.toNat_ofNat_of_lt' hfits

/-- A rounded word is no more than 1024 away from the word. -/
lemma roundedWord_near (n : UInt64) :
    n.toNat ≤ (roundedWord n).toNat + 1024 ∧ (roundedWord n).toNat ≤ n.toNat + 1024 := by
  have hlt : n.toNat < UInt64.size := n.toNat_lt
  have hnear := roundEven_near n.toNat (show 0 < 2048 by decide)
  rw [toNat_roundedWord]
  split
  · omega
  · omega

/-- The words that rounding leaves are those of no more than 63 bits, the multiples of 2048 and the greatest
word. -/
theorem roundedWord_eq_self_iff {n : UInt64} :
    roundedWord n = n ↔ n.toNat < 2 ^ 63 ∨ 2048 ∣ n.toNat ∨ n.toNat = UInt64.size - 1 := by
  have hsize : UInt64.size = 2 ^ 64 := rfl
  have hlt : n.toNat < UInt64.size := n.toNat_lt
  have hnear := roundEven_near n.toNat (show 0 < 2048 by decide)
  have hexact := roundEven_mul_eq_iff n.toNat (show 0 < 2048 by decide)
  rw [← UInt64.toNat_inj, toNat_roundedWord, ← hexact]
  split
  · omega
  · omega

end Freshness.Binary64
