import Freshness.Options

/-!
# Resolvers

A resolver answers two questions about each container of one pod: whether it is checked, and how. The
usual one reads the annotations of the pod.
-/

namespace Freshness

/-- What is to be done with the containers of a pod. -/
structure Resolver where
  isEnabled : (byDefault : Bool) → (container : String) → Bool
  options : (container : String) → Except (List Issue) Options

namespace Resolver

/-- The resolver that reads annotations, with a compiler for their patterns. -/
def ofAnnotations (compiler : Pattern.Compiler) (a : Annotations) : Resolver where
  isEnabled byDefault container := Options.isEnabled a container byDefault
  options container := Options.resolve compiler a container

/-- The resolver that has its answers in tables: it leaves a container that is in no table to the
default, and gives it the options that ask for nothing. -/
def ofTables (enabled : List (String × Bool)) (invalid : List (String × List Issue))
    (options : List (String × Options)) : Resolver where
  isEnabled byDefault container := (enabled.lookup container).getD byDefault
  options container :=
    match invalid.lookup container with
    | some issues => .error issues
    | none => .ok ((options.lookup container).getD {})

end Resolver

end Freshness
