import Freshness.Proofs.Policy.Assigned

/-!
# Policies from variables

Each of the three parts of a policy is read from what is known of this part alone (`ofSettings_eq_ok_iff`), and what is
known of it is the text of its own variable.  So every part is what this text means, whatever the others are
(`gives_iff`), and a mismatch is that of a part whose text cannot be read (`refuses_iff`).  Two environments that
assign the same texts to the parts make the same policy, or fail with the same mismatch (`ofEnvironment_congr`).

`ofEnvironment_reads_own_variables` says this for all that can be done to variables without a change of these texts:
another order, other letter case in the names, and other variables than those for parts.
-/

namespace Freshness.Policy

/-- Whether what is known of a part can be read, and the mismatch if it cannot. -/
def Item.check (item : Item) (known? : Option (Value × Source)) : Except Mismatch Unit :=
  match item with
  | checkByDefault => (readItem truth false item known?).map fun _ => ()
  | timeoutSeconds => (readItem wordIfAny none item known?).map fun _ => ()
  | maxConcurrent => (readItem word 1 item known?).map fun _ => ()

namespace Environment

/-- A part is what the text of its variable means, and `absent` without this variable. -/
def Gives {α : Type} (l : List (String × String)) (item : Item) (meaning : Value → Except (Found × Wanted) α)
    (absent x : α) : Prop :=
  (∃ text, Assigns l item text ∧ meaning (value text) = .ok x) ∨ (∀ text, ¬Assigns l item text) ∧ x = absent

/-- The variable for a part has a text that cannot be read, which leads to a mismatch. -/
def Refuses (l : List (String × String)) (item : Item) (m : Mismatch) : Prop :=
  ∃ text, Assigns l item text ∧ item.check (some (value text, .environment)) = .error m

/-- A variable with its name in lower case. -/
def inLowerCase (v : String × String) : String × String := (Unicode.lowerCase v.1, v.2)

variable {l l' : List (String × String)} {item : Item} {v : String × String}

/-! ## Parts and their texts -/

/-- A part is given a value exactly if it is read as this value from what is known of it. -/
lemma gives_iff (hl : Plain l) {α : Type} {meaning : Value → Except (Found × Wanted) α} {absent x : α} :
    Gives l item meaning absent x ↔
      readItem meaning absent item (known (l.filterMap setting?) item) = .ok x := by
  by_cases h : ∃ text, Assigns l item text
  · obtain ⟨text, htext⟩ := h
    have hread : readItem meaning absent item (some (value text, .environment)) = .ok x ↔
        meaning (value text) = .ok x := by
      unfold readItem
      dsimp only
      cases meaning (value text) with
      | error fault => exact iff_of_false (nomatch ·) (nomatch ·)
      | ok y => rw [Except.mapError, Except.ok.injEq, Except.ok.injEq]
    rw [known_of_assigns hl htext, hread]
    constructor
    · rintro (⟨text', htext', hx⟩ | ⟨hnone, -⟩)
      · rwa [htext.unique hl htext']
      · exact absurd htext (hnone text)
    · intro hx
      exact .inl ⟨text, htext, hx⟩
  · have hnone : ∀ text, ¬Assigns l item text := not_exists.1 h
    have hread : readItem meaning absent item none = .ok x ↔ x = absent := by
      unfold readItem
      rw [Except.ok.injEq, eq_comm]
    rw [known_of_not_assigns hl hnone, hread]
    constructor
    · rintro (⟨text, htext, -⟩ | ⟨-, hx⟩)
      · exact absurd htext (hnone text)
      · exact hx
    · intro hx
      exact .inr ⟨hnone, hx⟩

/-- A part is refused exactly if it cannot be read from what is known of it. -/
lemma refuses_iff (hl : Plain l) {m : Mismatch} :
    Refuses l item m ↔ item.check (known (l.filterMap setting?) item) = .error m := by
  by_cases h : ∃ text, Assigns l item text
  · obtain ⟨text, htext⟩ := h
    rw [known_of_assigns hl htext]
    constructor
    · rintro ⟨text', htext', hm⟩
      rwa [htext.unique hl htext']
    · intro hm
      exact ⟨text, htext, hm⟩
  · rw [known_of_not_assigns hl (not_exists.1 h)]
    constructor
    · rintro ⟨text, htext, -⟩
      exact absurd ⟨text, htext⟩ h
    · intro hm
      cases item <;> cases hm

/-! ## Reading the parts -/

/-- A policy is read exactly if its parts are. -/
lemma ofSettings_eq_ok_iff {settings : List Setting} {p : Policy} : ofSettings settings = .ok p ↔
    readItem truth false .checkByDefault (known settings .checkByDefault) = .ok p.checkByDefault ∧
    readItem wordIfAny none .timeoutSeconds (known settings .timeoutSeconds) = .ok p.timeoutSeconds ∧
    readItem word 1 .maxConcurrent (known settings .maxConcurrent) = .ok p.maxConcurrent := by
  obtain ⟨checkByDefault, timeoutSeconds, maxConcurrent⟩ := p
  unfold ofSettings
  cases readItem truth false .checkByDefault (known settings .checkByDefault) <;>
    cases readItem wordIfAny none .timeoutSeconds (known settings .timeoutSeconds) <;>
    cases readItem word 1 .maxConcurrent (known settings .maxConcurrent) <;>
    simp [bind, Except.bind, pure, Except.pure]

/-- No part is refused where a policy is read. -/
lemma check_of_ofSettings_eq_ok {settings : List Setting} {p : Policy} (h : ofSettings settings = .ok p)
    (item : Item) : item.check (known settings item) = .ok () := by
  obtain ⟨hdefault, hseconds, hconcurrent⟩ := ofSettings_eq_ok_iff.1 h
  cases item with
  | checkByDefault => rw [Item.check, hdefault]; rfl
  | timeoutSeconds => rw [Item.check, hseconds]; rfl
  | maxConcurrent => rw [Item.check, hconcurrent]; rfl

/-- Where no policy is read, the mismatch is that of a part. -/
lemma exists_check_of_ofSettings_eq_error {settings : List Setting} {m : Mismatch}
    (h : ofSettings settings = .error m) : ∃ item : Item, item.check (known settings item) = .error m := by
  unfold ofSettings at h
  cases hdefault : readItem truth false .checkByDefault (known settings .checkByDefault) with
  | error m' =>
    rw [hdefault] at h
    obtain rfl : m' = m := Except.error.inj h
    exact ⟨.checkByDefault, by rw [Item.check, hdefault]; rfl⟩
  | ok checkByDefault =>
    cases hseconds : readItem wordIfAny none .timeoutSeconds (known settings .timeoutSeconds) with
    | error m' =>
      rw [hdefault, hseconds] at h
      obtain rfl : m' = m := Except.error.inj h
      exact ⟨.timeoutSeconds, by rw [Item.check, hseconds]; rfl⟩
    | ok timeoutSeconds =>
      cases hconcurrent : readItem word 1 .maxConcurrent (known settings .maxConcurrent) with
      | error m' =>
        rw [hdefault, hseconds, hconcurrent] at h
        obtain rfl : m' = m := Except.error.inj h
        exact ⟨.maxConcurrent, by rw [Item.check, hconcurrent]; rfl⟩
      | ok maxConcurrent =>
        rw [hdefault, hseconds, hconcurrent] at h
        cases h

/-! ## Environments with the same texts -/

/-- The settings of plain variables are read one after the other. -/
lemma ofEnvironment_ofAssignments (hl : Plain l) :
    ofEnvironment (ofAssignments l) = ofSettings (l.filterMap setting?) := by
  have hnames : (l.map (·.1)).Nodup := by
    refine List.Nodup.of_map Unicode.lowerCase ?_
    rw [List.map_map]
    exact hl.distinct
  rw [ofEnvironment, ofAssignments_of_nodup hnames]
  rfl

/-- Environments that assign the same texts to the parts make the same policy, or fail with the same mismatch. -/
lemma ofEnvironment_congr (hl : Plain l) (hl' : Plain l')
    (h : ∀ item text, Assigns l' item text ↔ Assigns l item text) :
    ofEnvironment (ofAssignments l') = ofEnvironment (ofAssignments l) := by
  have hknown : known (l'.filterMap setting?) = known (l.filterMap setting?) := by
    funext item
    by_cases hassigns : ∃ text, Assigns l item text
    · obtain ⟨text, htext⟩ := hassigns
      rw [known_of_assigns hl htext, known_of_assigns hl' ((h item text).2 htext)]
    · have hnone : ∀ text, ¬Assigns l item text := not_exists.1 hassigns
      rw [known_of_not_assigns hl hnone, known_of_not_assigns hl' fun text htext => hnone text ((h item text).1 htext)]
  rw [ofEnvironment_ofAssignments hl, ofEnvironment_ofAssignments hl', ofSettings, ofSettings, hknown]

/-- The variables that are not for a part make no difference. -/
lemma ofEnvironment_filter (h : ∀ v ∈ l, IsFlat v) :
    ofEnvironment (ofAssignments (l.filter isForPart)) = ofEnvironment (ofAssignments l) := by
  have hflat : ∀ v ∈ (ofAssignments l).assigned, IsFlat v := by
    intro v hv
    obtain ⟨w, hw, hname⟩ := exists_of_mem_ofAssignments hv
    rw [IsFlat, ← hname]
    exact h w hw
  have hknown : known (settings (ofAssignments (l.filter isForPart))) = known (settings (ofAssignments l)) := by
    funext item
    rw [← onlyParts_ofAssignments, settings, settings, onlyParts, known_filter hflat]
  rw [ofEnvironment, ofEnvironment, ofSettings, ofSettings, hknown]

/-- Plain variables in another order are plain. -/
lemma Plain.of_perm (hl : Plain l) (h : l'.Perm l) : Plain l' :=
  ⟨(h.map _).nodup_iff.2 hl.distinct, fun v hv => hl.flat v (h.mem_iff.1 hv)⟩

/-- A text is assigned by a variable with the name of the part in lower case. -/
lemma assigns_iff_mem_map {text : String} :
    Assigns l item text ↔ (variableName item, text) ∈ l.map inLowerCase := by
  unfold Assigns inLowerCase
  simp only [List.mem_map, Prod.mk.injEq]

/-- Plain variables with other letter case in their names are plain. -/
lemma Plain.of_map_inLowerCase (hl : Plain l) (h : l'.map inLowerCase = l.map inLowerCase) : Plain l' := by
  have hnames : ∀ l : List (String × String),
      (l.map fun v => Unicode.lowerCase v.1) = (l.map inLowerCase).map (·.1) := fun l => by
    rw [List.map_map]
    rfl
  refine ⟨?_, fun v' hv' => ?_⟩
  · rw [hnames, h, ← hnames]
    exact hl.distinct
  · have hmem : inLowerCase v' ∈ l.map inLowerCase := h ▸ List.mem_map_of_mem hv'
    obtain ⟨v, hv, heq⟩ := List.mem_map.1 hmem
    have hname : Unicode.lowerCase v.1 = Unicode.lowerCase v'.1 := congrArg Prod.fst heq
    have hsign : ∀ d, Unicode.IsSign d → (d ∈ v'.1.toList ↔ d ∈ v.1.toList) := fun d hd => by
      rw [← Unicode.mem_lowerCase_iff hd, ← hname, Unicode.mem_lowerCase_iff hd]
    rw [IsFlat, hsign '.' (by decide), hsign '[' (by decide)]
    exact hl.flat v hv

end Environment

open Environment in
/-- **Own variables.**  Let variables have names that differ in more than letter case, without full stops and brackets,
and let no more than one part have a text that cannot be read.  The policy that they make, or the mismatch, is the same
in any order, with any letter case in the names, and with any further variables that are not for a part, or without
those.  There is a policy exactly if each part is what the text of its own variable means, and false, absent or one
without this variable; else there is the mismatch of the part whose text cannot be read. -/
theorem ofEnvironment_reads_own_variables {l : List (String × String)} (hl : Plain l)
    (hone : ∀ item item' m m', Refuses l item m → Refuses l item' m' → item = item') :
    (∀ l', l'.Perm l → ofEnvironment (ofAssignments l') = ofEnvironment (ofAssignments l)) ∧
    (∀ l', l'.map inLowerCase = l.map inLowerCase →
      ofEnvironment (ofAssignments l') = ofEnvironment (ofAssignments l)) ∧
    (∀ l', (∀ v ∈ l', IsFlat v) → l'.filter isForPart = l.filter isForPart →
      ofEnvironment (ofAssignments l') = ofEnvironment (ofAssignments l)) ∧
    (∀ p, ofEnvironment (ofAssignments l) = .ok p ↔
      Gives l .checkByDefault truth false p.checkByDefault ∧
      Gives l .timeoutSeconds wordIfAny none p.timeoutSeconds ∧
      Gives l .maxConcurrent word 1 p.maxConcurrent) ∧
    ∀ m, ofEnvironment (ofAssignments l) = .error m ↔ ∃ item, Refuses l item m := by
  refine ⟨fun l' hperm => ?_, fun l' hcase => ?_, fun l' hflat hfilter => ?_, fun p => ?_, fun m => ⟨fun h => ?_, ?_⟩⟩
  · refine ofEnvironment_congr hl (hl.of_perm hperm) fun item text => ?_
    rw [assigns_iff_mem_map, assigns_iff_mem_map, (hperm.map inLowerCase).mem_iff]
  · refine ofEnvironment_congr hl (hl.of_map_inLowerCase hcase) fun item text => ?_
    rw [assigns_iff_mem_map, assigns_iff_mem_map, hcase]
  · rw [← ofEnvironment_filter hflat, hfilter, ofEnvironment_filter hl.flat]
  · rw [gives_iff hl, gives_iff hl, gives_iff hl, ofEnvironment_ofAssignments hl, ofSettings_eq_ok_iff]
  · rw [ofEnvironment_ofAssignments hl] at h
    obtain ⟨item, hitem⟩ := exists_check_of_ofSettings_eq_error h
    exact ⟨item, (refuses_iff hl).2 hitem⟩
  · rintro ⟨item, hitem⟩
    rw [ofEnvironment_ofAssignments hl]
    cases hpolicy : ofSettings (l.filterMap setting?) with
    | ok p =>
      rw [refuses_iff hl, check_of_ofSettings_eq_ok hpolicy] at hitem
      cases hitem
    | error m' =>
      obtain ⟨item', hitem'⟩ := exists_check_of_ofSettings_eq_error hpolicy
      obtain rfl := hone item item' m m' hitem ((refuses_iff hl).2 hitem')
      rw [refuses_iff hl, hitem'] at hitem
      rw [Except.error.inj hitem]

open Environment in
/-- A text that is no number is refused wherever its variable stands, however its name is spelled, and whatever other
variables there are. -/
theorem ofEnvironment_reads_own_variables_misspelled :
    let l := [("VERSION_SYNC_CHECK_TIMEOUT_SECS", "soon"), ("VERSION_SYNC_DEFAULT_TEST_ALL", "on")]
    let m : Mismatch := ⟨.text "soon", .integer, .timeoutSeconds, .environment⟩
    Plain l ∧ (∀ item item' m m', Refuses l item m → Refuses l item' m' → item = item') ∧
    ofEnvironment (ofAssignments l) = .error m ∧
    ofEnvironment (ofAssignments [("VERSION_SYNC_DEFAULT_TEST_ALL", "on"),
      ("VERSION_SYNC_CHECK_TIMEOUT_SECS", "soon")]) = .error m ∧
    ofEnvironment (ofAssignments [("Version_Sync_Check_Timeout_Secs", "soon"),
      ("version_sync_default_test_all", "on")]) = .error m ∧
    ofEnvironment (ofAssignments [("VERSION_SYNC_CHECK_TIMEOUT", "7"), ("VERSION_SYNC_CHECK_TIMEOUT_SECS", "soon"),
      ("PATH", "/bin"), ("VERSION_SYNC_DEFAULT_TEST_ALL", "on")]) = .error m := by
  intro l m
  have hplain : Plain l := ⟨by decide +kernel, by unfold IsFlat; decide +kernel⟩
  have hseconds : Refuses l .timeoutSeconds m :=
    ⟨"soon", ⟨_, List.mem_cons_self, by decide +kernel, rfl⟩, by decide +kernel⟩
  have hrefused : ∀ item m, Refuses l item m → item = .timeoutSeconds := by
    rintro item m ⟨text, ⟨v, hv, hname, rfl⟩, herror⟩
    rcases List.mem_cons.1 hv with rfl | hv
    · revert hname
      cases item <;> decide +kernel
    · obtain rfl := List.mem_singleton.1 hv
      cases item with
      | checkByDefault =>
        have hread : Item.check .checkByDefault (some (value "on", .environment)) = .ok () := by decide +kernel
        cases hread.symm.trans herror
      | timeoutSeconds => rfl
      | maxConcurrent => exact absurd hname (by decide +kernel)
  have hone : ∀ item item' m m', Refuses l item m → Refuses l item' m' → item = item' :=
    fun item item' m m' h h' => (hrefused item m h).trans (hrefused item' m' h').symm
  obtain ⟨hperm, hcase, hfilter, -, herror⟩ := ofEnvironment_reads_own_variables hplain hone
  have hl := (herror m).2 ⟨_, hseconds⟩
  refine ⟨hplain, hone, hl, (hperm _ (List.Perm.swap ..)).trans hl, (hcase _ ?_).trans hl, (hfilter _ ?_ ?_).trans hl⟩
  · decide +kernel
  · unfold IsFlat
    decide +kernel
  · decide +kernel

open Environment in
/-- A name with a full stop goes on into a part, and takes the place of what is known of it. -/
example :
    ofEnvironment (ofAssignments [("VERSION_SYNC_DEFAULT_TEST_ALL", "on"), ("VERSION_SYNC_DEFAULT_TEST_ALL.ON", "1")]) =
      .error ⟨.map, .truth, .checkByDefault, .given⟩ := by
  decide +kernel

end Freshness.Policy
