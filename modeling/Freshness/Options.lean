import Freshness.Annotation
import Freshness.Options.Issue
import Freshness.Text.Blank
import Freshness.Text.Decimal

/-!
# Options of a check

The options of a container say how its image is checked. They are resolved from the annotations of
the pod, with a compiler for the pattern among them. Resolving either yields options that fit together,
or the list of everything that is wrong: first the values that cannot be read, in the order of the
settings, then the settings that exclude each other, then those that lack another one.
-/

namespace Freshness

/-- How the image of a container is checked. -/
structure Options where
  overrideUrl : Option String := none
  useSha : Bool := false
  useMetadata : Bool := false
  matchRegex : Option Pattern := none
  pinMajor : Option UInt64 := none
  pinMinor : Option UInt64 := none
  pinPatch : Option UInt64 := none
  resolveShaToTags : Bool := false
  deriving Repr, Inhabited

namespace Options

/-! ## Reading single values -/

/-- The truth value of one of its accepted spellings. -/
def readBool? (s : String) : Option Bool :=
  if ["1", "t", "T", "true", "TRUE", "True"].contains s then some true
  else if ["0", "f", "F", "false", "FALSE", "False"].contains s then some false
  else none

/-- The number of a pin: white space around it is left out. -/
def readPin? (s : String) : Option UInt64 := Text.readWord? (Text.trim s.toList)

section Resolve

variable (compiler : Pattern.Compiler) (annotations : Annotations) (container : String)

/-- The truth value of a setting: false if it is absent or unreadable. -/
def flag (s : Setting) : Bool :=
  ((annotations.setting? s container).bind readBool?).getD false

/-- The pin of a setting, if it is present and readable. -/
def pin? (s : Setting) : Option UInt64 :=
  (annotations.setting? s container).bind readPin?

/-- The pattern of the regular expression setting, if it is present and readable. -/
def pattern? : Option Pattern :=
  (annotations.setting? .matchRegex container).bind fun text => (compiler.run text).toOption

/-- Whether a setting is present. -/
def isSet (s : Setting) : Bool := (annotations.setting? s container).isSome

/-! ## Looking for issues -/

/-- The issue of a truth value that cannot be read. -/
def flagIssues (s : Setting) : List Issue :=
  match annotations.setting? s container with
  | some v => if (readBool? v).isNone then [.invalidBool (s.key container) v] else []
  | none => []

/-- The issue of a pin that cannot be read. -/
def pinIssues (s : Setting) : List Issue :=
  match annotations.setting? s container with
  | some v => if (readPin? v).isNone then [.invalidPin (s.key container) v] else []
  | none => []

/-- The issue of a pattern that cannot be read. -/
def patternIssues : List Issue :=
  match annotations.setting? .matchRegex container with
  | some v =>
    match compiler.run v with
    | .ok _ => []
    | .error refusal => [.invalidRegex (Setting.matchRegex.key container) v refusal]
  | none => []

/-- The settings that digests exclude: metadata if it is asked for, the others if they are present. -/
def excludedBySha : List Setting :=
  (if flag annotations container .useMetadata then [.useMetadata] else [])
    ++ [Setting.matchRegex, .pinMajor, .pinMinor, .pinPatch].filter (isSet annotations container)

/-- The issues of settings that cannot be combined with digests. -/
def conflictIssues : List Issue :=
  if flag annotations container .useSha then
    (excludedBySha annotations container).map fun s =>
      .conflict (Setting.useSha.key container) (s.key container)
  else []

/-- The issue of a setting that is present without the one it builds on. -/
def dependencyIssues (s required : Setting) : List Issue :=
  if isSet annotations container s ∧ ¬ isSet annotations container required then
    [.missingDependency (s.key container) (required.key container)]
  else []

/-- Everything that is wrong with the annotations of a container. -/
def issues : List Issue :=
  flagIssues annotations container .useSha
    ++ flagIssues annotations container .useMetadata
    ++ flagIssues annotations container .resolveShaToTags
    ++ patternIssues compiler annotations container
    ++ pinIssues annotations container .pinMajor
    ++ pinIssues annotations container .pinMinor
    ++ pinIssues annotations container .pinPatch
    ++ conflictIssues annotations container
    ++ dependencyIssues annotations container .pinMinor .pinMajor
    ++ dependencyIssues annotations container .pinPatch .pinMinor

/-- What the readable annotations of a container say. -/
def ofReadable : Options where
  overrideUrl := annotations.setting? .overrideUrl container
  useSha := flag annotations container .useSha
  useMetadata := flag annotations container .useMetadata
  matchRegex := pattern? compiler annotations container
  pinMajor := pin? annotations container .pinMajor
  pinMinor := pin? annotations container .pinMinor
  pinPatch := pin? annotations container .pinPatch
  resolveShaToTags := flag annotations container .resolveShaToTags

/-- The options of a container, or everything that is wrong with its annotations. -/
def resolve : Except (List Issue) Options :=
  let found := issues compiler annotations container
  if found.isEmpty then .ok (ofReadable compiler annotations container) else .error found

/-- Whether the annotations ask for a check of a container, where `byDefault` holds for containers
without an annotation. Only the text `true` asks for one. -/
def isEnabled (byDefault : Bool) : Bool :=
  match annotations.setting? .enable container with
  | some v => v == "true"
  | none => byDefault

end Resolve

end Options

end Freshness
