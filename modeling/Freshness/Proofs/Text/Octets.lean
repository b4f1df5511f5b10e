import Mathlib.Data.List.Lex
import Mathlib.Data.String.Basic

/-!
# The order of texts is the order of their octets

Texts are compared character by character.  Their octets, which are those of the characters one after the
other, are in the same order (`octets_lt_octets_iff`).  The number of octets of a character shows in the first
one, and characters with as many octets differ in the first octet in which their numbers do, so that two
characters are told apart before the octets of either of them end (`utf8EncodeChar_append_lt`).
-/

namespace Freshness.Text

/-- The octets of a text. -/
def octets (s : List Char) : List UInt8 := s.flatMap String.utf8EncodeChar

/-! ## Characters -/

/-- Octets are in the order of the first one of them, if this differs. -/
lemma cons_lt_cons_of_lt {a b : Nat} (h : a < b) (hb : b < 256) (l m : List UInt8) :
    UInt8.ofNat a :: l < UInt8.ofNat b :: m := by
  refine List.cons_lt_cons_iff.2 (.inl ?_)
  rw [UInt8.lt_iff_toNat_lt, UInt8.toNat_ofNat', UInt8.toNat_ofNat']
  omega

/-- Let octets `p` and `q` stand for two numbers without their last six bits.  One more octet for these bits
leaves them in order. -/
lemma append_octet_lt {p q : List UInt8} {v w : Nat} (h : v < w)
    (hlt : v / 64 < w / 64 → ∀ l m, p ++ l < q ++ m) (heq : v / 64 = w / 64 → p = q)
    (l m : List UInt8) :
    p ++ UInt8.ofNat (v % 64 + 128) :: l < q ++ UInt8.ofNat (w % 64 + 128) :: m := by
  rcases Nat.lt_or_ge (v / 64) (w / 64) with hhigh | hhigh
  · exact hlt hhigh _ _
  · obtain rfl := heq (by omega)
    exact List.Lex.append_left _ (cons_lt_cons_of_lt (by omega) (by omega) l m) p

/-- The octets of a lesser character come before those of a greater one, whatever follows them. -/
lemma utf8EncodeChar_append_lt {c d : Char} (h : c < d) (l m : List UInt8) :
    String.utf8EncodeChar c ++ l < String.utf8EncodeChar d ++ m := by
  have hlt : c.val.toNat < d.val.toNat := h
  have hmax : d.val.toNat < 0x110000 := by
    rcases d.valid with hd | hd
    · have hsmall : d.val.toNat < 0xd800 := hd
      omega
    · exact hd.2
  have hdiv : ∀ n, n / 4096 = n / 64 / 64 := fun n => by omega
  have hdiv' : ∀ n, n / 262144 = n / 64 / 64 / 64 := fun n => by omega
  unfold String.utf8EncodeChar
  generalize c.val.toNat = v at *
  generalize d.val.toNat = w at *
  simp only [hdiv, hdiv']
  split_ifs
  -- the lesser character has no more octets than the greater one
  any_goals omega
  -- one octet, against one, two, three and four of them
  iterate 4 exact cons_lt_cons_of_lt (by omega) (by omega) _ _
  -- two octets
  · refine append_octet_lt (p := [_]) (q := [_]) hlt (fun hl => ?_) (fun he => ?_) l m
    · exact cons_lt_cons_of_lt (by omega) (by omega)
    · rw [he]
  iterate 2 exact cons_lt_cons_of_lt (by omega) (by omega) _ _
  -- three octets
  · refine append_octet_lt (p := [_, _]) (q := [_, _]) hlt (fun hl => ?_) (fun he => ?_) l m
    · refine append_octet_lt (p := [_]) (q := [_]) hl (fun hl => ?_) (fun he => ?_)
      · exact cons_lt_cons_of_lt (by omega) (by omega)
      · rw [he]
    · rw [he]
  · exact cons_lt_cons_of_lt (by omega) (by omega) _ _
  -- four octets
  · refine append_octet_lt (p := [_, _, _]) (q := [_, _, _]) hlt (fun hl => ?_) (fun he => ?_) l m
    · refine append_octet_lt (p := [_, _]) (q := [_, _]) hl (fun hl => ?_) (fun he => ?_)
      · refine append_octet_lt (p := [_]) (q := [_]) hl (fun hl => ?_) (fun he => ?_)
        · exact cons_lt_cons_of_lt (by omega) (by omega)
        · rw [he]
      · rw [he]
    · rw [he]

/-! ## Texts -/

/-- The octets of a lesser text come before those of a greater one. -/
lemma octets_lt_octets {s t : List Char} (h : s < t) : octets s < octets t := by
  have hlex : List.Lex (· < ·) s t := h
  induction hlex with
  | @nil c t =>
    obtain ⟨x, l, hx⟩ := List.exists_cons_of_ne_nil (String.utf8EncodeChar_ne_nil (c := c))
    rw [octets, octets, List.flatMap_nil, List.flatMap_cons, hx]
    exact List.nil_lt_cons _ _
  | @cons c s t hst ih =>
    rw [octets, octets, List.flatMap_cons, List.flatMap_cons]
    exact List.Lex.append_left _ (ih hst) _
  | rel hcd =>
    rw [octets, octets, List.flatMap_cons, List.flatMap_cons]
    exact utf8EncodeChar_append_lt hcd _ _

/-- Texts are in the order of their octets. -/
theorem octets_lt_octets_iff {s t : List Char} : octets s < octets t ↔ s < t := by
  refine ⟨fun h => ?_, octets_lt_octets⟩
  rcases lt_trichotomy s t with hlt | rfl | hgt
  · exact hlt
  · exact absurd h (List.lt_irrefl _)
  · exact absurd h (List.lt_asymm (octets_lt_octets hgt))

/-- Lists stay in order when a function that keeps the order of their members is applied to each member. -/
lemma map_lt_map {α β : Type} [LT α] [LT β] {f : α → β} (hf : ∀ a b, a < b → f a < f b) {l m : List α}
    (h : l < m) : l.map f < m.map f := by
  have hlex : List.Lex (· < ·) l m := h
  induction hlex with
  | nil => exact List.Lex.nil
  | cons hlm ih => exact List.Lex.cons (ih hlm)
  | rel hab => exact List.Lex.rel (hf _ _ hab)

end Freshness.Text
