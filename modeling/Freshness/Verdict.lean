/-!
# Verdicts on images

A verdict is what a check finds out about an image: the version that runs, the latest version that
there is, and whether they are the same.
-/

namespace Freshness

/-- What a check finds out about an image. -/
structure Verdict where
  image : String
  currentVersion : String
  latestVersion : String
  isLatest : Bool
  os : String
  architecture : String
  deriving DecidableEq, Repr, Inhabited

end Freshness
