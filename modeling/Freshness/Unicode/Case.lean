import Freshness.Unicode.CaseFold
import Freshness.Unicode.Class
import Freshness.Unicode.LowerCase

/-!
# Letter case

Two characters belong to the same case orbit iff they fold to the same character. Lower-casing a text
replaces every character by its lower-case form. Two forms are not one character for one: the dotted
capital I becomes an i with a dot above, and a capital sigma at the end of a word becomes the final
small sigma. An ASCII text is lower-cased letter by letter (`lowerCase_of_ascii`).
-/

namespace Freshness.Unicode

/-- The code points that differ from `n` in case only, `n` itself among them. -/
def caseOrbit (n : Nat) : List Nat :=
  let f := foldings.apply n
  f :: foldings.preimages f

/-- Whether the next character that has a bearing on case has a case. -/
def nextIsCased : List Char → Bool
  | [] => false
  | c :: rest => if caseIgnorable.mem c then nextIsCased rest else cased.mem c

/-- The lower-case form of a character between the text before it, last character first, and the
text after it. -/
def lowerForm (before : List Char) (c : Char) (after : List Char) : List Char :=
  if c.toNat < 0x80 then [c.toLower]
  else if c.toNat = 0x3A3 then
    [if nextIsCased before ∧ ¬ nextIsCased after then Char.ofNat 0x3C2 else Char.ofNat 0x3C3]
  else if c.toNat = 0x130 then ['i', Char.ofNat 0x307]
  else [Char.ofNat (lowerings.apply c.toNat)]

/-- The lower-case form of a text that follows `before`. -/
def lowerAfter (before : List Char) : List Char → List Char
  | [] => []
  | c :: rest => lowerForm before c rest ++ lowerAfter (c :: before) rest

/-- The lower-case form of a text. -/
def lowerCase (s : String) : String :=
  String.ofList (lowerAfter [] s.toList)

theorem lowerAfter_of_ascii {cs : List Char} (h : ∀ c ∈ cs, c.toNat < 0x80) (before : List Char) :
    lowerAfter before cs = cs.map Char.toLower := by
  induction cs generalizing before with
  | nil => rfl
  | cons c rest ih =>
    have hc : c.toNat < 0x80 := h c List.mem_cons_self
    have hrest := ih (fun d hd => h d (List.mem_cons_of_mem _ hd)) (c :: before)
    simp [lowerAfter, lowerForm, hc, hrest]

/-- The lower-case form of an ASCII text is made letter by letter. -/
theorem lowerCase_of_ascii {s : String} (h : ∀ c ∈ s.toList, c.toNat < 0x80) :
    lowerCase s = String.ofList (s.toList.map Char.toLower) := by
  rw [lowerCase, lowerAfter_of_ascii h]

end Freshness.Unicode
