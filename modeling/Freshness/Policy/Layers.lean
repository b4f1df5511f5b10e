import Freshness.Policy.Lenient

/-!
# Policies in layers

Settings may be given in two layers, defaults and overrides. The paths of all settings are read first,
and a text that is no path is refused. Within a layer the last of several settings at one path counts;
then every setting is made in turn under its name in lower case, the overrides after the defaults.
-/

namespace Freshness.Policy

/-- Settings in two layers. -/
structure Layers where
  defaults : List (String × Value)
  overrides : List (String × Value)
  deriving Repr, Inhabited

/-- Why layers of settings make no policy: a setting is at no path, or the value of a part of the policy
cannot be taken for what is wanted. -/
inductive LayersFault where
  | path (fault : PathFault)
  | mismatch (m : Mismatch)
  deriving DecidableEq, Repr

/-- The message of a fault in layers of settings. -/
def LayersFault.message : LayersFault → String
  | path fault => fault.message
  | mismatch m => m.message

namespace Layers

/-- The settings of a layer at their paths, the last one for each path. -/
def atPaths (layer : List (String × Value)) : Except LayersFault (List Setting) := do
  let settings ← layer.mapM fun (text, v) => do
    let path ← (Path.read text).mapError .path
    return (⟨path, v, .given⟩ : Setting)
  return settings.foldl (fun kept s => kept.filter (·.path ≠ s.path) ++ [s]) []

/-- All settings in the order in which they are made. -/
def settings (l : Layers) : Except LayersFault (List Setting) := do
  let inTurn := (← atPaths l.defaults) ++ (← atPaths l.overrides)
  return inTurn.map fun s => { s with path.name := Unicode.lowerCase s.path.name }

end Layers

/-- The policy that layers of settings make. -/
def ofLayers (l : Layers) : Except LayersFault Policy := do
  (ofSettings (← l.settings)).mapError .mismatch

end Freshness.Policy
