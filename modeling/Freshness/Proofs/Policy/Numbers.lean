import Freshness.Policy.Environment
import Freshness.Policy.Layers
import Freshness.Proofs.Number.Reading
import Freshness.Record.Forms
import Mathlib.Data.List.Basic

/-!
# Numbers in policies

The seconds for a check and the number of containers at a time may be given as a setting, in a document or by a
variable of the environment.  Settings and documents hold numbers as they are.  The environment holds texts, and
digits are taken for a signed word first and for a number with a binary point next.  So a number that needs all
the bits of an unsigned word is rounded on its way from the environment (`word_value_wordText`), though the text
itself means the number as it is (`word_text_wordText`).

`ofEnvironment_of_number` says what number an environment sets, and for which numbers it agrees with the other
sources.
-/

namespace Freshness.Policy

open Binary64 Text

/-- Whether a part of the policy is a number. -/
def Item.isNumber : Item → Bool
  | checkByDefault => false
  | timeoutSeconds => true
  | maxConcurrent => true

/-- The policy in which one part is set to a number, if it is one. -/
def withNumber (n : UInt64) : Item → Policy
  | .checkByDefault => {}
  | .timeoutSeconds => { timeoutSeconds := some n }
  | .maxConcurrent => { maxConcurrent := n }

/-- The variables of an environment that belong to the policy. -/
def Environment.forPolicy (e : Environment) : List (String × String) :=
  e.assigned.filter fun v => namePrefix.toList.isPrefixOf (Unicode.lowerCase v.1).toList

variable {item : Item} {n : UInt64} {v : Value}

/-- Another number for a part makes another policy. -/
lemma withNumber_inj (hitem : item.isNumber = true) {m : UInt64} :
    withNumber m item = withNumber n item ↔ m = n := by
  cases item with
  | checkByDefault => cases hitem
  | timeoutSeconds => simp [withNumber]
  | maxConcurrent => simp [withNumber]

/-! ## One setting -/

/-- A setting at the name of a part, whose value is not a table without fields, is what is known of this part. -/
lemma known_singleton (hv : v ≠ .table []) (source : Source) (item other : Item) :
    known [⟨⟨item.name, []⟩, v, source⟩] other = if item = other then some (v, source) else none := by
  have hname : item.name = other.name ↔ item = other := by
    cases item <;> cases other <;> decide
  have hknown : known [⟨⟨item.name, []⟩, v, source⟩] other =
      Setting.update ⟨⟨item.name, []⟩, v, source⟩ other none := rfl
  rw [hknown]
  by_cases heq : item = other
  · rw [if_pos heq]
    unfold Setting.update
    rw [if_neg (not_not_intro (hname.2 heq))]
    cases v with
    | table fields =>
      cases fields with
      | nil => exact absurd rfl hv
      | cons _ _ => rfl
    | _ => rfl
  · rw [if_neg heq]
    exact if_pos fun h => heq (hname.1 h)

/-- A part is what its value means. -/
lemma readItem_of_eq_ok {α : Type} {meaning : Value → Except (Found × Wanted) α} {absent x : α}
    (h : meaning v = .ok x) {source : Source} :
    readItem meaning absent item (some (v, source)) = .ok x := by
  unfold readItem
  dsimp only
  rw [h]
  rfl

/-- A value that means a number and is set for a part makes the policy with this number. -/
lemma ofSettings_singleton (hitem : item.isNumber = true) (hv : word v = .ok n) (source : Source) :
    ofSettings [⟨⟨item.name, []⟩, v, source⟩] = .ok (withNumber n item) := by
  have htable : v ≠ .table [] := by
    rintro rfl
    cases hv
  have hany : wordIfAny v = .ok (some n) := by
    cases v with
    | null => cases hv
    | _ => exact congrArg (Except.map some) hv
  have hknown := known_singleton htable source item
  cases item with
  | checkByDefault => cases hitem
  | timeoutSeconds =>
    unfold ofSettings
    rw [hknown, hknown, hknown, if_neg (by decide), if_pos rfl, if_neg (by decide), readItem_of_eq_ok hany]
    rfl
  | maxConcurrent =>
    unfold ofSettings
    rw [hknown, hknown, hknown, if_neg (by decide), if_neg (by decide), if_pos rfl, readItem_of_eq_ok hv]
    rfl

/-- A number that fits into a word means this word. -/
lemma word_integer (n : UInt64) : word (.integer n.toNat) = .ok n := by
  unfold word
  dsimp only
  rw [if_pos (Int.natCast_nonneg _), Int.toNat_natCast, UInt64.ofNat_toNat]

/-! ## The environment -/

/-- The text of a word is no text with a character that is not a digit, in whatever case. -/
lemma lowerCase_wordText_ne (n : UInt64) {w : String} (hw : w.toList.all Char.isDigit = false) :
    Unicode.lowerCase (wordText n) ≠ w := by
  obtain ⟨-, hdigits, -⟩ := digitsValue?_eq_some_iff.1 (digitsValue?_wordText n)
  have hascii : ∀ c ∈ (wordText n).toList, c.toNat < 0x80 := by
    intro c hc
    have hrange := toNat_of_isDigit (hdigits c hc)
    omega
  rw [Unicode.lowerCase_of_ascii hascii, map_toLower_of_isDigit hdigits]
  exact ofList_ne_of_isDigit hdigits hw

/-- The text of a word spells the word if it needs no more than 63 bits, and else a number with a binary point. -/
lemma value_wordText (n : UInt64) : Environment.value (wordText n) =
    if n.toNat < 2 ^ 63 then .integer n.toNat else .float (.ofRatio false n.toNat 1) := by
  have hvalue := digitsValue?_wordText n
  have htrue : Unicode.lowerCase (wordText n) ≠ "true" := lowerCase_wordText_ne n (by decide)
  have hfalse : Unicode.lowerCase (wordText n) ≠ "false" := lowerCase_wordText_ne n (by decide)
  unfold Environment.value
  rw [if_neg htrue, if_neg hfalse, readSignedWord?_of_digitsValue? hvalue]
  by_cases hn : n.toNat < 2 ^ 63
  · rw [if_pos hn, if_pos hn]
  · rw [if_neg hn, if_neg hn, readBinary64?_of_digitsValue? hvalue, ofDecimal_of_lt (by omega) n.toNat_lt]

/-- The text of a word, where it is left a text, means the word. -/
lemma word_text_wordText (n : UInt64) : word (.text (wordText n)) = .ok n := by
  have hletter : ∀ w ∈ ["true", "on", "yes", "false", "off", "no"], w.toList.all Char.isDigit = false := by
    decide
  have hne : ∀ w ∈ ["true", "on", "yes", "false", "off", "no"], Unicode.lowerCase (wordText n) ≠ w :=
    fun w hw => lowerCase_wordText_ne n (hletter w hw)
  have hword : truthWord? (Unicode.lowerCase (wordText n)) = none := by
    unfold truthWord?
    simp only [List.forall_mem_cons] at hne
    simp [hne]
  have hread : readWord? (wordText n).toList = some n := readWord?_eq_some_iff.2 (isNumeral_wordText n)
  unfold word
  dsimp only
  rw [hword]
  dsimp only
  rw [hread]

/-- The text of a word means the rounded word. -/
lemma word_value_wordText (n : UInt64) : word (Environment.value (wordText n)) = .ok (roundedWord n) := by
  rw [value_wordText]
  by_cases hn : n.toNat < 2 ^ 63
  · have hself : roundedWord n = n := roundedWord_eq_self_iff.2 (.inl hn)
    rw [if_pos hn, hself, word_integer]
  · rw [if_neg hn, word, toWord_ofRatio_toNat (Nat.not_lt.1 hn)]

/-- Only the variables that belong to the policy make settings. -/
lemma settings_eq (e : Environment) : e.settings = e.forPolicy.filterMap Environment.setting? := by
  unfold Environment.settings Environment.forPolicy
  rw [List.filterMap_filter]
  refine List.filterMap_congr fun v _ => ?_
  split
  · rfl
  · rename_i hnot
    unfold Environment.setting? Environment.dropStart?
    rw [if_neg hnot]
    rfl

/-- The name of a part is a path without steps. -/
lemma read_name (item : Item) : Path.read item.name = .ok ⟨item.name, []⟩ := by
  cases item <;> exact Path.read_of_all_isNameChar (by decide) (by decide)

/-- A variable that is named for a part makes a setting of this part. -/
lemma setting?_of_name {name : String} (hname : Unicode.lowerCase name = Environment.namePrefix ++ item.name)
    (text : String) :
    Environment.setting? (name, text) = some ⟨⟨item.name, []⟩, Environment.value text, .environment⟩ := by
  have hdrop : Environment.dropStart? Environment.namePrefix (Environment.namePrefix ++ item.name) =
      some item.name := by
    unfold Environment.dropStart?
    rw [String.toList_append, if_pos (List.isPrefixOf_iff_prefix.2 (List.prefix_append _ _)),
      ← String.length_toList, List.drop_left, String.ofList_toList]
  unfold Environment.setting?
  rw [hname, hdrop, Option.bind_some, read_name]
  rfl

/-! ## The sources -/

/-- A number that is set for a part is the number of this part. -/
lemma ofLayers_of_number (hitem : item.isNumber = true) (n : UInt64) :
    ofLayers ⟨[], [(item.name, .integer n.toNat)]⟩ = .ok (withNumber n item) := by
  have hlower : Unicode.lowerCase item.name = item.name := by
    cases item <;> decide
  have hpaths : Layers.atPaths [(item.name, .integer n.toNat)] =
      .ok [⟨⟨item.name, []⟩, .integer n.toNat, .given⟩] := by
    unfold Layers.atPaths
    rw [List.mapM_cons]
    dsimp only
    rw [read_name]
    rfl
  have hsettings : Layers.settings ⟨[], [(item.name, .integer n.toNat)]⟩ =
      .ok [⟨⟨Unicode.lowerCase item.name, []⟩, .integer n.toNat, .given⟩] := by
    unfold Layers.settings
    dsimp only
    rw [hpaths]
    rfl
  unfold ofLayers
  rw [hsettings, hlower]
  exact congrArg (Except.mapError LayersFault.mismatch) (ofSettings_singleton hitem (word_integer n) .given)

/-- A word in a document is read as it is. -/
lemma asWord_integer (wanted : String) (n : UInt64) : Value.asWord wanted (.integer n.toNat) = .ok n := by
  have hrange : (0 : Int) ≤ n.toNat ∧ (n.toNat : Int) < UInt64.size :=
    ⟨Int.natCast_nonneg _, Int.ofNat_lt.2 n.toNat_lt⟩
  unfold Value.asWord
  dsimp only
  rw [if_pos hrange, Int.toNat_natCast, UInt64.ofNat_toNat]

/-- The seconds for a check in a document may be absent. -/
lemma readEntry_timeoutSeconds (v : Value) :
    form.readEntry {} (Item.timeoutSeconds.name, v) =
      (Value.asOptional (Value.asWord "u64") v).map fun m => { timeoutSeconds := m } := rfl

/-- The number of containers at a time in a document is a word. -/
lemma readEntry_maxConcurrent (v : Value) :
    form.readEntry {} (Item.maxConcurrent.name, v) =
      (Value.asWord "usize" v).map fun m => { maxConcurrent := m } := rfl

/-- A number in a document is the number of its part. -/
lemma read_form_of_number (hitem : item.isNumber = true) (n : UInt64) :
    form.read (.table [(item.name, .integer n.toNat)]) = .ok (withNumber n item) := by
  have hentry : form.readEntry {} (item.name, .integer n.toNat) = .ok (withNumber n item) := by
    cases item with
    | checkByDefault => cases hitem
    | timeoutSeconds =>
      rw [readEntry_timeoutSeconds, Value.asOptional, asWord_integer]
      · rfl
      · exact fun hnull => Value.noConfusion hnull
    | maxConcurrent =>
      rw [readEntry_maxConcurrent, asWord_integer]
      rfl
  have horder : Value.inOrder [(item.name, .integer n.toNat)] = [(item.name, .integer n.toNat)] :=
    List.mergeSort_singleton _
  have hblank : form.blank = {} := rfl
  have hmissing : form.missing? [(item.name, .integer n.toNat)] = none := by
    cases item <;> rfl
  unfold RecordForm.read
  dsimp only
  rw [horder, List.foldlM_cons, hblank, hentry]
  simp only [hmissing]
  rfl

/-! ## The main result -/

/-- **The number that an environment sets.**  Let one variable of an environment belong to the policy, let it be
named for a part that is a number, and let its text be the digits of a word.  Then the environment makes a policy,
and the part is the rounded word, which is no more than 1024 away.  It is the word itself exactly if the word needs
no more than 63 bits, or is a multiple of 2048, or is the greatest of all.  The same text means the word itself
where it is left a text, and so does the number where it is given as a setting or in a document. -/
theorem ofEnvironment_of_number {e : Environment} {name : String} (hitem : item.isNumber = true)
    (hname : Unicode.lowerCase name = Environment.namePrefix ++ item.name)
    (hset : e.forPolicy = [(name, wordText n)]) :
    ofEnvironment e = .ok (withNumber (roundedWord n) item) ∧
    (n.toNat ≤ (roundedWord n).toNat + 1024 ∧ (roundedWord n).toNat ≤ n.toNat + 1024) ∧
    (ofEnvironment e = .ok (withNumber n item) ↔
      n.toNat < 2 ^ 63 ∨ 2048 ∣ n.toNat ∨ n.toNat = UInt64.size - 1) ∧
    word (.text (wordText n)) = .ok n ∧
    ofLayers ⟨[], [(item.name, .integer n.toNat)]⟩ = .ok (withNumber n item) ∧
    form.read (.table [(item.name, .integer n.toNat)]) = .ok (withNumber n item) := by
  have hsettings : e.settings = [⟨⟨item.name, []⟩, Environment.value (wordText n), .environment⟩] := by
    rw [settings_eq, hset, List.filterMap_cons_some (setting?_of_name hname _), List.filterMap_nil]
  have hpolicy : ofEnvironment e = .ok (withNumber (roundedWord n) item) := by
    unfold ofEnvironment
    rw [hsettings, ofSettings_singleton hitem (word_value_wordText n)]
  refine ⟨hpolicy, roundedWord_near n, ?_, word_text_wordText n, ofLayers_of_number hitem n,
    read_form_of_number hitem n⟩
  rw [hpolicy, Except.ok.injEq, withNumber_inj hitem, roundedWord_eq_self_iff]

/-- The number after the half of all words is rounded down to the half. -/
theorem ofEnvironment_of_number_half :
    let n : UInt64 := 9223372036854775809
    let e : Environment := ⟨[("PATH", "/bin"), ("VERSION_SYNC_CHECK_TIMEOUT_SECS", wordText n)]⟩
    Item.timeoutSeconds.isNumber = true ∧
    Unicode.lowerCase "VERSION_SYNC_CHECK_TIMEOUT_SECS" =
      Environment.namePrefix ++ Item.timeoutSeconds.name ∧
    e.forPolicy = [("VERSION_SYNC_CHECK_TIMEOUT_SECS", wordText n)] ∧
    ofEnvironment e = .ok { timeoutSeconds := some 9223372036854775808 } := by
  intro n e
  have hname : Unicode.lowerCase "VERSION_SYNC_CHECK_TIMEOUT_SECS" =
      Environment.namePrefix ++ Item.timeoutSeconds.name := by decide +kernel
  have hset : e.forPolicy = [("VERSION_SYNC_CHECK_TIMEOUT_SECS", wordText n)] := by decide +kernel
  have hrounded : roundedWord n = 9223372036854775808 := by decide +kernel
  obtain ⟨hpolicy, -⟩ := ofEnvironment_of_number rfl hname hset
  rw [hrounded] at hpolicy
  exact ⟨rfl, hname, hset, hpolicy⟩

/-- Not every number comes from the environment as it is. -/
theorem not_forall_ofEnvironment_eq :
    ¬∀ (item : Item) (n : UInt64) (e : Environment) (name : String), item.isNumber = true →
      Unicode.lowerCase name = Environment.namePrefix ++ item.name →
      e.forPolicy = [(name, wordText n)] → ofEnvironment e = .ok (withNumber n item) := by
  intro h
  have hclaimed := h .timeoutSeconds 9223372036854775809
    ⟨[("VERSION_SYNC_CHECK_TIMEOUT_SECS", wordText 9223372036854775809)]⟩ "VERSION_SYNC_CHECK_TIMEOUT_SECS" rfl
    (by decide +kernel) (by decide +kernel)
  have hactual : ofEnvironment
      ⟨[("VERSION_SYNC_CHECK_TIMEOUT_SECS", wordText 9223372036854775809)]⟩ =
        .ok { timeoutSeconds := some 9223372036854775808 } := by decide +kernel
  rw [hactual] at hclaimed
  exact absurd (Except.ok.inj hclaimed) (by decide)

end Freshness.Policy
