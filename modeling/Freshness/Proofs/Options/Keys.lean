import Freshness.Annotation
import Mathlib.Data.List.Nodup

/-!
# Keys of annotations

The key of a setting for a container is the domain name of the setting, a slash, and the name of the container.
No domain name has a slash, so a key tells its setting and its container, whatever the container is called
(`Setting.key_eq_key_iff`).  So texts for the settings of a container can be written down as annotations in
which each setting has just its own text (`Annotations.setting?_ofTexts`).
-/

namespace Freshness

namespace Setting

/-- All settings. -/
def all : List Setting :=
  [enable, useSha, useMetadata, matchRegex, pinMajor, pinMinor, pinPatch, overrideUrl, resolveShaToTags]

lemma mem_all (s : Setting) : s ∈ all := by
  cases s <;> decide

/-- Settings have domain names of their own. -/
lemma domain_injective {s t : Setting} (h : s.domain = t.domain) : s = t := by
  have hnodup : (all.map domain).Nodup := by decide
  exact List.inj_on_of_nodup_map hnodup (mem_all s) (mem_all t) h

/-- No domain name has a slash. -/
lemma slash_not_mem_domain (s : Setting) : '/' ∉ s.domain.toList := by
  have hall : ∀ s ∈ all, '/' ∉ s.domain.toList := by decide
  exact hall s (mem_all s)

/-- What stands before the first slash of a key is the domain name of its setting. -/
lemma takeWhile_key (s : Setting) (container : String) :
    (s.key container).toList.takeWhile (· != '/') = s.domain.toList := by
  have hdomain : ∀ c ∈ s.domain.toList, (c != '/') = true := by
    intro c hc
    exact bne_iff_ne.2 fun heq => slash_not_mem_domain s (heq ▸ hc)
  have hslash : "/".toList = ['/'] := rfl
  rw [key, keyIn, String.toList_append, String.toList_append, hslash, List.append_assoc,
    List.takeWhile_append_of_pos hdomain, List.singleton_append,
    List.takeWhile_cons_of_neg (by decide), List.append_nil]

/-- A key tells its setting and its container. -/
theorem key_eq_key_iff {s t : Setting} {c d : String} : s.key c = t.key d ↔ s = t ∧ c = d := by
  constructor
  · intro h
    have hdomain : s.domain.toList = t.domain.toList := by
      rw [← takeWhile_key s c, h, takeWhile_key]
    obtain rfl := domain_injective (String.toList_inj.1 hdomain)
    exact ⟨rfl, String.append_right_inj _ |>.1 h⟩
  · rintro ⟨rfl, rfl⟩
    rfl

end Setting

namespace Annotations

/-- Where no two entries have one key, a key has the text with which it is entered. -/
lemma get?_eq_some_iff {a : Annotations} (h : (a.entries.map (·.1)).Nodup) {key value : String} :
    a.get? key = some value ↔ (key, value) ∈ a.entries := by
  unfold get?
  constructor
  · intro hget
    obtain ⟨p, hp, rfl⟩ := Option.map_eq_some_iff.1 hget
    have hkey : p.1 = key := by simpa using List.find?_some hp
    rw [← hkey]
    exact List.mem_reverse.1 (List.mem_of_find?_eq_some hp)
  · intro hmem
    cases hfind : a.entries.reverse.find? (·.1 == key) with
    | none => simpa using List.find?_eq_none.1 hfind _ (List.mem_reverse.2 hmem)
    | some p =>
      have hkey : p.1 = key := by simpa using List.find?_some hfind
      have hp : p ∈ a.entries := List.mem_reverse.1 (List.mem_of_find?_eq_some hfind)
      obtain rfl : p = (key, value) := List.inj_on_of_nodup_map h hp hmem hkey
      rfl

/-- The annotations that say the given texts of the settings for a container, and nothing else. -/
def ofTexts (container : String) (texts : Setting → Option String) : Annotations :=
  ⟨Setting.all.filterMap fun s => (texts s).map fun text => (s.key container, text)⟩

/-- Annotations that are made of texts have no key twice. -/
lemma nodup_ofTexts (container : String) (texts : Setting → Option String) :
    ((ofTexts container texts).entries.map (·.1)).Nodup := by
  have hkey : ∀ (s : Setting) (key : String),
      key ∈ ((texts s).map fun text => (s.key container, text)).map (·.1) → key = s.key container := by
    intro s key h
    obtain ⟨p, hp, rfl⟩ := Option.map_eq_some_iff.1 h
    obtain ⟨text, -, rfl⟩ := Option.map_eq_some_iff.1 hp
    rfl
  rw [ofTexts, List.map_filterMap]
  refine List.Nodup.filterMap (fun s t key hs ht => ?_) (by decide)
  exact (Setting.key_eq_key_iff.1 ((hkey s key hs).symm.trans (hkey t key ht))).1

/-- Annotations that are made of texts say these texts. -/
lemma setting?_ofTexts (container : String) (texts : Setting → Option String) (s : Setting) :
    (ofTexts container texts).setting? s container = texts s := by
  refine Option.ext fun text => ?_
  rw [setting?, get?_eq_some_iff (nodup_ofTexts container texts), ofTexts, List.mem_filterMap]
  constructor
  · rintro ⟨t, -, ht⟩
    obtain ⟨text', ht, heq⟩ := Option.map_eq_some_iff.1 ht
    obtain ⟨hkey, rfl⟩ := Prod.mk.inj heq
    rwa [← (Setting.key_eq_key_iff.1 hkey).1]
  · intro h
    exact ⟨s, Setting.mem_all s, Option.map_eq_some_iff.2 ⟨text, h, rfl⟩⟩

end Annotations

end Freshness
