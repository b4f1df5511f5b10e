/-!
# Annotations of a pod

A pod carries annotations: texts under keys. Nine settings can be made for each container of a pod.
The key of a setting for a container is the domain name of the setting, a slash, and the name of the
container. No domain name has a slash, so the key tells which setting and which container it is for.
-/

namespace Freshness

/-- The settings that annotations make for a container. -/
inductive Setting where
  | enable
  | useSha
  | useMetadata
  | matchRegex
  | pinMajor
  | pinMinor
  | pinPatch
  | overrideUrl
  | resolveShaToTags
  deriving DecidableEq, Repr

namespace Setting

/-- The domain name of a setting. -/
def domain : Setting → String
  | enable => "enable.version-checker.io"
  | useSha => "use-sha.version-checker.io"
  | useMetadata => "use-metadata.version-checker.io"
  | matchRegex => "match-regex.version-checker.io"
  | pinMajor => "pin-major.version-checker.io"
  | pinMinor => "pin-minor.version-checker.io"
  | pinPatch => "pin-patch.version-checker.io"
  | overrideUrl => "override-url.version-checker.io"
  | resolveShaToTags => "resolve-sha-to-tags.version-checker.io"

/-- The key under a domain name for a container. -/
def keyIn (domain container : String) : String := domain ++ "/" ++ container

/-- The key of a setting for a container. -/
def key (s : Setting) (container : String) : String := keyIn s.domain container

end Setting

/-- The annotations of a pod: keys with their texts. Of two entries with one key the later one
holds. -/
structure Annotations where
  entries : List (String × String)
  deriving DecidableEq, Repr, Inhabited

namespace Annotations

/-- A pod without annotations. -/
def empty : Annotations := ⟨[]⟩

/-- The text under a key. -/
def get? (a : Annotations) (key : String) : Option String :=
  (a.entries.reverse.find? (·.1 == key)).map (·.2)

/-- The annotations with a text under a key, in place of an earlier one. -/
def insert (a : Annotations) (key value : String) : Annotations :=
  ⟨a.entries.filter (·.1 != key) ++ [(key, value)]⟩

/-- The text of a setting for a container. -/
def setting? (a : Annotations) (s : Setting) (container : String) : Option String :=
  a.get? (s.key container)

theorem get?_insert_self (a : Annotations) (key value : String) :
    (a.insert key value).get? key = some value := by
  simp [insert, get?]

/-- Another key keeps its text. -/
theorem get?_insert_of_ne (a : Annotations) {key other : String} (h : other ≠ key) (value : String) :
    (a.insert key value).get? other = a.get? other := by
  obtain ⟨entries⟩ := a
  have hk : (key == other) = false := by simpa using Ne.symm h
  simp only [insert, get?, List.reverse_append, List.reverse_cons, List.reverse_nil, List.nil_append,
    List.singleton_append, List.find?_cons, hk]
  congr 1
  rw [← List.filter_reverse, List.find?_filter]
  congr 1
  funext x
  by_cases hx : x.1 = other
  · subst hx; simp [h]
  · simp [hx]

end Annotations

end Freshness
