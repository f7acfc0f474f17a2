import SiteSurvey.Path
import SiteSurvey.Request.Extract
import SiteSurvey.Site.Hostname

set_option autoImplicit false

namespace SiteSurvey

/-- A folder with detectors: the one that comes with the survey, or one of the user's own. -/
inductive DetectorFolder where
  | builtin
  | folder (path : Path)
  deriving DecidableEq, Repr, Inhabited

def DetectorFolder.text : DetectorFolder → String
  | builtin => "@builtin"
  | folder path => path.toString

structure Config where
  outputRoot : Path
  workers : Int
  radius : Int
  senders : Request.Senders
  extensions : List String
  detectorFolders : List DetectorFolder
  deriving DecidableEq, Repr

namespace Config

def usualExtensions : List String :=
  [".js", ".mjs", ".cjs", ".jsx", ".ts", ".tsx"]

def maxRadius : Int := 100

def usual : Config :=
  { outputRoot := .ofString "scrapelists", workers := 4, radius := 100, senders := .usual,
    extensions := usualExtensions, detectorFolders := [.builtin] }

def check (c : Config) : Except Failure Config :=
  if c.workers < 1 then
    .error (.badValue (Text.ofString "max_workers must be at least 1, got " ++ Text.ofInt c.workers))
  else if c.radius < 0 || maxRadius < c.radius then
    .error (.badValue
      (Text.ofString "context_radius must be between 0 and 100, got " ++ Text.ofInt c.radius))
  else .ok c

def analysisFolder (c : Config) (site : String) : Except Failure Path :=
  match Site.hostname site with
  | .error f => .error f
  | .ok host => .ok (c.outputRoot / host / "analysis")

end Config

def sortedNames (names : List String) : List String :=
  (names.eraseDups).mergeSort fun a b => a ≤ b

end SiteSurvey
