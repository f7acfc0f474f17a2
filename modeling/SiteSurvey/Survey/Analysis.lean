import SiteSurvey.Survey.PatternScan
import SiteSurvey.Survey.Triage

set_option autoImplicit false

namespace SiteSurvey

structure Artifacts where
  requestSurface : Path
  machineReport : Path
  humanReport : Path
  signals : Path
  deriving DecidableEq, Repr, Inhabited

structure Analysis where
  site : String
  sources : Nat
  requestSurface : RequestSurface
  patternScan : PatternScan
  artifacts : Artifacts
  deriving Inhabited

namespace Analysis

def logger : String := "jsrecon.pipeline"

def eventLogger : String := "jsrecon.events"

def requestSurfaceFile : String := "js_request_surface.json"

def machineReportFile : String := "goods_machine.json"

def humanReportFile : String := "goods_human.txt"

def field (name : String) (v : Json) : Text × Json :=
  (Text.ofString name, v)

def textField (name value : String) : Text × Json :=
  field name (.string (Text.ofString value))

def written (site stage : String) (count : Option Nat) (artifact : Path) : List (Text × Json) :=
  [textField "event" "artifact_written", textField "site" site, textField "stage" stage] ++
    (match count with
      | some n => [field "count" (.int n)]
      | none => []) ++
    [textField "artifact" artifact.toString]

def runRequestSurface (site : String) (paths : List Path) (c : Config) (root : Option Path) :
    Survey (RequestSurface × Path) := do
  let out := (← Survey.ofExcept (c.analysisFolder site)) / requestSurfaceFile
  let report ← RequestSurface.analyze c.senders site root paths c.workers
  let path ← Artifact.writeJson out report.toJson
  Survey.note .info eventLogger ("Request surface saved to " ++ out.toString)
    (written site "request_surface" (some report.findings.length) out)
  return (report, path)

def noteRejected (site : String) (rejected : Text × Text) : Survey Unit :=
  Survey.note .warning eventLogger
    (Text.ofString "Detector " ++ rejected.1 ++ " excluded: " ++ rejected.2)
    [textField "event" "detector_rejected", textField "site" site,
     field "detector" (.string rejected.1), field "error" (.string rejected.2)]

def textLessEqual : Text → Text → Bool
  | [], _ => true
  | _ :: _, [] => false
  | a :: as, b :: bs => if a == b then textLessEqual as bs else a.val < b.val

def runPatternScan (site : String) (paths : List Path) (c : Config) (root : Option Path) :
    Survey (PatternScan × Path × Path) := do
  let out ← Survey.ofExcept (c.analysisFolder site)
  let set ← DetectorSet.load c.detectorFolders
  set.rejected.forM (noteRejected site)
  let found ← PatternScan.scan c.radius set.detectors site root paths c.workers
  let report := { found with rejected := (set.rejected.map (·.1)).mergeSort textLessEqual }
  let machine ← Artifact.writeJson (out / machineReportFile) report.toJson
  let human ← Artifact.writeText (out / humanReportFile) (Scan.render report.records)
  Survey.note .info eventLogger ("Pattern scan saved to " ++ out.toString)
    (written site "pattern_scan" (some report.total) machine)
  return (report, machine, human)

def runTriage (site : String) (c : Config) : Survey Path := do
  let out ← Survey.ofExcept (c.analysisFolder site)
  let path ← Signal.extract (out / machineReportFile)
  Survey.note .info eventLogger ("Signals saved to " ++ path.toString)
    (written site "signal_triage" none path)
  return path

/-- Finds out everything about a site from the scripts in a folder. -/
def run (site : String) (folder : Path) (c : Config) : Survey Analysis := do
  let _ ← Survey.ofExcept (Site.hostname site)
  let paths ← Source.collect folder c.extensions
  Survey.note .info logger
    ("Analyzing " ++ Nat.repr paths.length ++ " source file(s) for " ++ site) []
  let (surface, surfacePath) ← runRequestSurface site paths c (some folder)
  let (scan, machine, human) ← runPatternScan site paths c (some folder)
  let signals ← runTriage site c
  return { site, sources := paths.length, requestSurface := surface, patternScan := scan,
           artifacts := { requestSurface := surfacePath, machineReport := machine,
                          humanReport := human, signals } }

end Analysis

end SiteSurvey
