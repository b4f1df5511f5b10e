import Freshness.Unicode.Case
import Mathlib.Data.List.Basic

/-!
# Signs in lower case

Lower-casing a text changes letters only.  A sign such as a full stop or a bracket stays as it is, and no letter
becomes one, since every form in the table stands after the signs of ASCII (`lt_image_of_mem_lowerings`).  So a sign
is in the lower-case form of a text exactly if it is in the text (`mem_lowerCase_iff`).
-/

namespace Freshness.Unicode

/-- A sign of ASCII: a character before the small letters that is its own lower-case form. -/
structure IsSign (d : Char) : Prop where
  pos : 0 < d.toNat
  le : d.toNat ≤ 0x60
  toLower_eq : d.toLower = d

instance (d : Char) : Decidable (IsSign d) :=
  decidable_of_iff (0 < d.toNat ∧ d.toNat ≤ 0x60 ∧ d.toLower = d)
    ⟨fun ⟨hpos, hle, hlower⟩ => ⟨hpos, hle, hlower⟩, fun h => ⟨h.pos, h.le, h.toLower_eq⟩⟩

/-! ## The table -/

/-- The runs of a table are read from the characters of its text. -/
lemma all_runs_decode {p : CaseRun → Bool} {text : List Char}
    (h : (CaseMap.ofTriples (hexNumbers none text) 0).all p = true) :
    (CaseMap.decode (String.ofList text)).runs.all p = true := by
  rw [CaseMap.decode, String.toList_ofList]
  exact h

-- the elaborator goes as deep as a part of the table has characters
set_option maxRecDepth 4000 in
/-- In every part of the table the forms stand after the signs of ASCII. -/
lemma all_runs_of_mem_lowerTables :
    ∀ text ∈ lowerTables, (CaseMap.decode text).runs.all (fun r => decide (0x60 < r.image)) = true := by
  unfold lowerTables
  simp only [List.forall_mem_cons]
  refine ⟨?_, ?_, ?_, ?_, ?_, ?_, ?_, ?_, ?_, ?_, ?_, ?_, ?_, List.forall_mem_nil _⟩
  all_goals exact all_runs_decode (by decide +kernel)

/-- The lower-case forms in the table stand after the signs of ASCII. -/
lemma lt_image_of_mem_lowerings {r : CaseRun} (hr : r ∈ lowerings.runs) : 0x60 < r.image := by
  rw [lowerings, CaseMap.mem_runs_ofTables] at hr
  obtain ⟨text, htext, hmem⟩ := hr
  exact of_decide_eq_true (List.all_eq_true.1 (all_runs_of_mem_lowerTables text htext) r hmem)

/-- A map of cases leaves a code point as it is, or sends it to the image of a run or further. -/
lemma apply_eq_self_or (m : CaseMap) (n : Nat) : m.apply n = n ∨ ∃ r ∈ m.runs, r.image ≤ m.apply n := by
  unfold CaseMap.apply
  split
  · rename_i r hr
    exact .inr ⟨r, List.mem_of_find?_eq_some hr, Nat.le_add_right _ _⟩
  · exact .inl rfl

/-- The lower-case form of a code point is the code point or stands after the signs of ASCII. -/
lemma apply_lowerings (n : Nat) : lowerings.apply n = n ∨ 0x60 < lowerings.apply n := by
  rcases apply_eq_self_or lowerings n with hsame | ⟨r, hr, hle⟩
  · exact .inl hsame
  · exact .inr (Nat.lt_of_lt_of_le (lt_image_of_mem_lowerings hr) hle)

/-! ## Signs -/

variable {d : Char}

/-- No number after the signs of ASCII is that of a sign. -/
lemma IsSign.ne_ofNat (hd : IsSign d) {n : Nat} (hn : 0x60 < n) : d ≠ Char.ofNat n := by
  intro heq
  by_cases hvalid : n.isValidChar
  · have hnumber : d.toNat = n := by
      rw [heq, Char.ofNat, dif_pos hvalid]
      rfl
    exact absurd hd.le (by omega)
  · have hnumber : d.toNat = 0 := by
      rw [heq, Char.ofNat, dif_neg hvalid]
      rfl
    exact absurd hd.pos (by omega)

/-- A sign is the lower-case form of itself alone among the characters of ASCII. -/
lemma IsSign.eq_of_eq_toLower (hd : IsSign d) {c : Char} (h : d = c.toLower) : d = c := by
  by_cases hupper : c.val ≥ 'A'.val ∧ c.val ≤ 'Z'.val
  · -- the small letter of a capital stands after the signs
    have hsmall : c.toLower.toNat = (c.val + ('a'.val - 'A'.val)).toNat := congrArg Char.toNat (dif_pos hupper)
    have hcapital : 65 ≤ c.val.toNat ∧ c.val.toNat ≤ 90 :=
      ⟨UInt32.le_iff_toNat_le.1 hupper.1, UInt32.le_iff_toNat_le.1 hupper.2⟩
    have hdistance : ('a'.val - 'A'.val).toNat = 32 := rfl
    have hle := hd.le
    rw [h, hsmall, UInt32.toNat_add] at hle
    omega
  · exact h.trans (dif_neg hupper)

/-- A sign is in the lower-case form of a character exactly if it is the character. -/
lemma mem_lowerForm_iff (hd : IsSign d) (before : List Char) (c : Char) (after : List Char) :
    d ∈ lowerForm before c after ↔ d = c := by
  constructor
  · intro h
    unfold lowerForm at h
    split_ifs at h with hascii hsigma hfinal hdotted
    · exact hd.eq_of_eq_toLower (List.mem_singleton.1 h)
    · exact absurd (List.mem_singleton.1 h) (hd.ne_ofNat (by decide))
    · exact absurd (List.mem_singleton.1 h) (hd.ne_ofNat (by decide))
    · have hdot : d = Char.ofNat 0x69 ∨ d = Char.ofNat 0x307 := by simpa using h
      rcases hdot with hi | habove
      · exact absurd hi (hd.ne_ofNat (by decide))
      · exact absurd habove (hd.ne_ofNat (by decide))
    · rcases apply_lowerings c.toNat with hsame | hlt
      · rw [hsame, Char.ofNat_toNat] at h
        exact List.mem_singleton.1 h
      · exact absurd (List.mem_singleton.1 h) (hd.ne_ofNat hlt)
  · rintro rfl
    have hascii : d.toNat < 0x80 := Nat.lt_of_le_of_lt hd.le (by decide)
    unfold lowerForm
    rw [if_pos hascii, hd.toLower_eq]
    exact List.mem_singleton_self d

/-- A sign is in the lower-case form of characters exactly if it is one of them. -/
lemma mem_lowerAfter_iff (hd : IsSign d) (before s : List Char) : d ∈ lowerAfter before s ↔ d ∈ s := by
  induction s generalizing before with
  | nil => exact Iff.rfl
  | cons c rest ih => rw [lowerAfter, List.mem_append, mem_lowerForm_iff hd, ih, List.mem_cons]

/-- A sign is in the lower-case form of a text exactly if it is in the text. -/
theorem mem_lowerCase_iff (hd : IsSign d) (s : String) : d ∈ (lowerCase s).toList ↔ d ∈ s.toList := by
  rw [lowerCase, String.toList_ofList, mem_lowerAfter_iff hd]

end Freshness.Unicode
