import Freshness.Options
import Freshness.Proofs.Options.Keys

/-!
# Annotations of other containers

What is resolved for a container is read from the texts under its own keys and from nothing else: whether it is to
be checked from the text of one setting (`isEnabled_congr`), and its options from the texts of the other eight
(`resolve_congr`).

The annotations of a pod change by edits, each of which puts a text under the key of a setting for a container or
takes it away.  Since a key tells its container, edits for other containers leave the texts of a container as they
are, however the containers are called (`Annotations.setting?_editAll_of_ne`).  So nothing that is written down
for one container has an effect on another one (`resolve_reads_own_keys`).
-/

namespace Freshness

namespace Annotations

/-! ## Edits -/

/-- A change of one annotation: the new text of a setting for a container, or that there is none any more. -/
structure Edit where
  setting : Setting
  container : String
  text : Option String
  deriving DecidableEq, Repr

/-- The key whose text an edit changes. -/
def Edit.key (e : Edit) : String := e.setting.key e.container

/-- The annotations without a key. -/
def erase (a : Annotations) (key : String) : Annotations := ⟨a.entries.filter (·.1 != key)⟩

/-- The annotations after an edit. -/
def edit (a : Annotations) (e : Edit) : Annotations :=
  match e.text with
  | some text => a.insert e.key text
  | none => a.erase e.key

/-- The annotations after edits, one after the other. -/
def editAll (a : Annotations) (edits : List Edit) : Annotations := edits.foldl edit a

variable {a : Annotations} {key other : String}

lemma get?_erase_self (a : Annotations) (key : String) : (a.erase key).get? key = none := by
  simp [erase, get?]

/-- Another key keeps its text when a key is taken away. -/
lemma get?_erase_of_ne (h : other ≠ key) : (a.erase key).get? other = a.get? other := by
  have hkept : (fun x : String × String => decide ((x.1 != key) = true ∧ (x.1 == other) = true)) =
      fun x => x.1 == other := by
    funext x
    by_cases hx : x.1 = other
    · simp [hx, h]
    · simp [hx]
  unfold erase get?
  rw [← List.filter_reverse, List.find?_filter, hkept]

/-- An edit changes the text under its own key and no other. -/
lemma get?_edit (a : Annotations) (e : Edit) (key : String) :
    (a.edit e).get? key = if key = e.key then e.text else a.get? key := by
  unfold edit
  split_ifs with h
  · subst h
    cases e.text with
    | some text => exact get?_insert_self a e.key text
    | none => exact get?_erase_self a e.key
  · cases e.text with
    | some text => exact get?_insert_of_ne a h text
    | none => exact get?_erase_of_ne h

/-- Edits of other keys leave the text under a key. -/
lemma get?_editAll_of_ne {edits : List Edit} (h : ∀ e ∈ edits, e.key ≠ key) :
    (a.editAll edits).get? key = a.get? key := by
  unfold editAll
  induction edits generalizing a with
  | nil => rfl
  | cons e rest ih =>
    obtain ⟨hfirst, hrest⟩ := List.forall_mem_cons.1 h
    rw [List.foldl_cons, ih hrest, get?_edit, if_neg (Ne.symm hfirst)]

/-- Edits for other containers leave the texts of a container. -/
lemma setting?_editAll_of_ne {edits : List Edit} {container : String}
    (h : ∀ e ∈ edits, e.container ≠ container) (s : Setting) :
    (a.editAll edits).setting? s container = a.setting? s container := by
  refine get?_editAll_of_ne fun e he hkey => ?_
  obtain ⟨-, hcontainer⟩ := Setting.key_eq_key_iff.1 hkey
  exact h e he hcontainer

end Annotations

namespace Options

variable {compiler : Pattern.Compiler} {a b : Annotations} {container : String} {s : Setting}

/-! ## What is read from one text -/

lemma flag_congr (h : a.setting? s container = b.setting? s container) :
    flag a container s = flag b container s := by
  unfold flag
  rw [h]

lemma pin?_congr (h : a.setting? s container = b.setting? s container) :
    pin? a container s = pin? b container s := by
  unfold pin?
  rw [h]

lemma pattern?_congr (h : a.setting? .matchRegex container = b.setting? .matchRegex container) :
    pattern? compiler a container = pattern? compiler b container := by
  unfold pattern?
  rw [h]

lemma isSet_congr (h : a.setting? s container = b.setting? s container) :
    isSet a container s = isSet b container s := by
  unfold isSet
  rw [h]

lemma flagIssues_congr (h : a.setting? s container = b.setting? s container) :
    flagIssues a container s = flagIssues b container s := by
  unfold flagIssues
  rw [h]

lemma pinIssues_congr (h : a.setting? s container = b.setting? s container) :
    pinIssues a container s = pinIssues b container s := by
  unfold pinIssues
  rw [h]

lemma patternIssues_congr (h : a.setting? .matchRegex container = b.setting? .matchRegex container) :
    patternIssues compiler a container = patternIssues compiler b container := by
  unfold patternIssues
  rw [h]

/-- Whether a container is to be checked is read from the text of one setting. -/
lemma isEnabled_congr (h : a.setting? .enable container = b.setting? .enable container) (byDefault : Bool) :
    isEnabled a container byDefault = isEnabled b container byDefault := by
  unfold isEnabled
  rw [h]

/-! ## What is read from all texts of a container -/

lemma conflictIssues_congr (h : ∀ s ≠ .enable, a.setting? s container = b.setting? s container) :
    conflictIssues a container = conflictIssues b container := by
  have hset : [Setting.matchRegex, .pinMajor, .pinMinor, .pinPatch].filter (isSet a container) =
      [Setting.matchRegex, .pinMajor, .pinMinor, .pinPatch].filter (isSet b container) := by
    refine List.filter_congr fun s hs => isSet_congr (h s ?_)
    rintro rfl
    exact absurd hs (by decide)
  unfold conflictIssues excludedBySha
  rw [hset, flag_congr (h .useSha (by decide)), flag_congr (h .useMetadata (by decide))]

lemma dependencyIssues_congr {required : Setting}
    (h : a.setting? s container = b.setting? s container)
    (hrequired : a.setting? required container = b.setting? required container) :
    dependencyIssues a container s required = dependencyIssues b container s required := by
  unfold dependencyIssues
  rw [isSet_congr h, isSet_congr hrequired]

/-- Everything that is wrong with the annotations of a container is read from the texts of eight settings. -/
lemma issues_congr (h : ∀ s ≠ .enable, a.setting? s container = b.setting? s container) :
    issues compiler a container = issues compiler b container := by
  unfold issues
  rw [flagIssues_congr (h .useSha (by decide)), flagIssues_congr (h .useMetadata (by decide)),
    flagIssues_congr (h .resolveShaToTags (by decide)), patternIssues_congr (h .matchRegex (by decide)),
    pinIssues_congr (h .pinMajor (by decide)), pinIssues_congr (h .pinMinor (by decide)),
    pinIssues_congr (h .pinPatch (by decide)), conflictIssues_congr h,
    dependencyIssues_congr (h .pinMinor (by decide)) (h .pinMajor (by decide)),
    dependencyIssues_congr (h .pinPatch (by decide)) (h .pinMinor (by decide))]

/-- What the readable annotations of a container say is read from the texts of eight settings. -/
lemma ofReadable_congr (h : ∀ s ≠ .enable, a.setting? s container = b.setting? s container) :
    ofReadable compiler a container = ofReadable compiler b container := by
  unfold ofReadable
  rw [h .overrideUrl (by decide), flag_congr (h .useSha (by decide)),
    flag_congr (h .useMetadata (by decide)), pattern?_congr (h .matchRegex (by decide)),
    pin?_congr (h .pinMajor (by decide)), pin?_congr (h .pinMinor (by decide)),
    pin?_congr (h .pinPatch (by decide)), flag_congr (h .resolveShaToTags (by decide))]

/-- The options of a container are read from the texts of eight settings. -/
lemma resolve_congr (h : ∀ s ≠ .enable, a.setting? s container = b.setting? s container) :
    resolve compiler a container = resolve compiler b container := by
  unfold resolve
  rw [issues_congr h, ofReadable_congr h]

/-- **No effect on other containers.**  Two annotations with the same texts under the keys of a container,
whatever it is called and whatever else they say, agree on whether it is to be checked, by any default, and,
with any compiler of patterns, on its options or all that is wrong with them.  No key is for two settings or two
containers, so that any edits for other containers leave both as they are. -/
theorem resolve_reads_own_keys (compiler : Pattern.Compiler) (container : String) :
    (∀ a b : Annotations, (∀ s : Setting, a.get? (s.key container) = b.get? (s.key container)) →
      (∀ byDefault, isEnabled a container byDefault = isEnabled b container byDefault) ∧
      resolve compiler a container = resolve compiler b container) ∧
    (∀ (s t : Setting) (other : String), s.key container = t.key other ↔ s = t ∧ container = other) ∧
    ∀ (a : Annotations) (edits : List Annotations.Edit), (∀ e ∈ edits, e.container ≠ container) →
      (∀ byDefault, isEnabled (a.editAll edits) container byDefault = isEnabled a container byDefault) ∧
      resolve compiler (a.editAll edits) container = resolve compiler a container := by
  have hagree : ∀ a b : Annotations,
      (∀ s : Setting, a.get? (s.key container) = b.get? (s.key container)) →
      (∀ byDefault, isEnabled a container byDefault = isEnabled b container byDefault) ∧
      resolve compiler a container = resolve compiler b container := by
    intro a b h
    exact ⟨isEnabled_congr (h .enable), resolve_congr fun s _ => h s⟩
  refine ⟨hagree, fun s t other => Setting.key_eq_key_iff, fun a edits hedits => ?_⟩
  exact hagree _ _ (Annotations.setting?_editAll_of_ne hedits)

/-- A container called `app` beside others whose names hold a slash or the key of a setting for `app`: the edits
turn one of them off and spoil the pin of another, and change nothing for `app`, also not where the pod has
further annotations. -/
theorem resolve_reads_own_keys_nested :
    let a : Annotations := ⟨[(Setting.pinMajor.key "app", "1"), (Setting.pinMajor.key "x/app", "2")]⟩
    let edits : List Annotations.Edit := [⟨.enable, Setting.enable.key "app", some "false"⟩,
      ⟨.pinMajor, "x/app", some "nope"⟩, ⟨.useSha, "/app", some "true"⟩, ⟨.useSha, "/app", none⟩]
    let b : Annotations := ⟨("owner", "web") :: a.entries⟩
    (∀ e ∈ edits, e.container ≠ "app") ∧
    (∀ s : Setting, b.get? (s.key "app") = a.get? (s.key "app")) ∧
    resolve Pattern.compiler (a.editAll edits) "app" = resolve Pattern.compiler a "app" ∧
    resolve Pattern.compiler b "app" = resolve Pattern.compiler a "app" ∧
    (resolve Pattern.compiler a "app").toOption.map (·.pinMajor) = some (some 1) ∧
    isEnabled (a.editAll edits) "app" true = true ∧
    isEnabled (a.editAll edits) (Setting.enable.key "app") true = false ∧
    issues Pattern.compiler (a.editAll edits) "x/app" = [.invalidPin (Setting.pinMajor.key "x/app") "nope"] := by
  intro a edits b
  have hedits : ∀ e ∈ edits, e.container ≠ "app" := by decide
  have hkeys : ∀ s : Setting, b.get? (s.key "app") = a.get? (s.key "app") := by
    intro s
    cases s <;> decide
  obtain ⟨hagree, -, hscoped⟩ := resolve_reads_own_keys Pattern.compiler "app"
  obtain ⟨henabled, hresolve⟩ := hscoped a edits hedits
  obtain ⟨-, hfurther⟩ := hagree b a hkeys
  have hdefault : isEnabled a "app" true = true := by decide
  exact ⟨hedits, hkeys, hresolve, hfurther, by decide +kernel, (henabled true).trans hdefault,
    by decide +kernel, by decide +kernel⟩

end Options

end Freshness
