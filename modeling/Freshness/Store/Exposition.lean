import Freshness.Store

/-!
# The exposition of the store

The series of the store are shown as text: two lines about the gauge, then one line for each series in
the order of the label values, taken in the order of the label names. Label values stand in quotes;
inside, a backslash, a quote and a line break follow a backslash.
-/

namespace Freshness.Store

namespace Exposition

/-- The name of the gauge. -/
def gaugeName : String := "version_checker_is_latest_version"

/-- A character of a label value as it stands between quotes. -/
def escapedChar (c : Char) : List Char :=
  if c = '\\' then ['\\', '\\']
  else if c = '\n' then ['\\', 'n']
  else if c = '"' then ['\\', '"']
  else [c]

/-- A label value as it stands between quotes. -/
def escaped (s : List Char) : List Char := s.flatMap escapedChar

/-- A label. -/
def labelText (name value : String) : List Char :=
  name.toList ++ ['=', '"'] ++ escaped value.toList ++ ['"']

/-- Labels, with commas between them. -/
def labelsText (labels : List (String × String)) : List Char :=
  List.intercalate [','] (labels.map fun (name, value) => labelText name value)

/-- The line of a series, without the line break at its end. -/
def sampleLine (s : Series) : List Char :=
  gaugeName.toList ++ ['\x7b'] ++ labelsText s.labels.named ++ ['\x7d', ' ', if s.isLatest then '1' else '0']

/-- The two lines about the gauge. -/
def heading : String :=
  "# HELP " ++ gaugeName
    ++ " Whether the container image is running the latest version (1) or not (0)\n"
    ++ "# TYPE " ++ gaugeName ++ " gauge\n"

/-- The label values in the order of the label names: what lines are ordered by. -/
def orderKey (s : Series) : List String := s.labels.named.map (·.2)

/-- The series in the order of their lines. -/
def inOrder (series : List Series) : List Series :=
  series.mergeSort fun s t => !decide (orderKey t < orderKey s)

end Exposition

open Exposition in
/-- The text that shows the series of the store, empty if there are none. -/
def render (s : Store) : String :=
  if s.series.isEmpty then ""
  else heading ++ String.ofList ((inOrder s.series).flatMap fun t => sampleLine t ++ ['\n'])

end Freshness.Store
