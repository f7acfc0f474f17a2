import SiteSurvey.Config
import SiteSurvey.Detector.Builtin
import SiteSurvey.World

set_option autoImplicit false

namespace SiteSurvey

/-- The detectors of a survey, and those that were turned down with the reasons. -/
structure DetectorSet where
  detectors : List Detector
  rejected : List (Text × Text)
  deriving Inhabited

namespace Detector

def logger : String := "jsrecon.scanners.patterns.detectors"

def Refusal.failure : Refusal → Failure
  | rejected name reason => .detector name reason.message
  | beyondBounds p => .tooLarge (p.message [])
  | clashingFlags p => .badValue (p.message [])

def rejected {α : Type} (p : Path) (reason : Rejection) : Survey α :=
  throw (Refusal.failure (.rejected p.name reason))

def loadFile (p : Path) : Survey Detector := do
  if !p.toString.endsWith ".py" then rejected p (.wrongSuffix p.toString)
  else
    match (← Survey.volume).lookup true p with
    | .error fault => rejected p (.importFailed (Trouble.at_ fault p.toString).message)
    | .ok s =>
        match s.entry with
        | none => rejected p (.importFailed (Trouble.at_ .missing p.toString).message)
        | some .folder => rejected p (.importFailed (Trouble.at_ .isFolder p.toString).message)
        | some (.plugin plugin) =>
            Survey.ofExcept ((plugin.load p.name).mapError Refusal.failure)
        | some _ => Survey.ofExcept ((Plugin.blank.load p.name).mapError Refusal.failure)

end Detector

namespace DetectorSet

def empty : DetectorSet :=
  { detectors := [], rejected := [] }

def reject (s : DetectorSet) (name reason : Text) : DetectorSet :=
  { s with rejected := Json.put s.rejected name reason }

/-- Takes a detector in, unless there is one of its name already. -/
def insert (s : DetectorSet) (d : Detector) (path : String) : DetectorSet :=
  if s.detectors.any (·.name == d.name) then
    s.reject (d.name ++ " (" ++ path ++ ")") "Duplicate detector name"
  else { s with detectors := s.detectors ++ [d] }

def insertFile (s : DetectorSet) (p : Path) : Survey DetectorSet := do
  try return s.insert (← Detector.loadFile p) p.toString
  catch f =>
    match f with
    | .detector name message => return s.reject (if name.isEmpty then Text.ofString p.name else name) message
    | f => throw f

def insertBuiltin (s : DetectorSet) : DetectorSet :=
  Detector.builtin.foldl (fun s d => s.insert d (DetectorFolder.builtin.text ++ "/" ++ d.name)) s

/-- The files in a folder that may hold detectors, in order. -/
def candidates (v : Volume) (folder : Path) (place : Volume.Location) : List Path :=
  let names := (v.children place).map fun child => child.1.text
  let fitting := names.filter fun name => name.endsWith ".py" && !name.startsWith "_"
  (fitting.mergeSort fun a b => a ≤ b).map fun name => folder / name

def insertFolder (s : DetectorSet) : DetectorFolder → Survey DetectorSet
  | .builtin => return s.insertBuiltin
  | .folder p => do
      if ← Survey.ask p fun v => v.isFolder p then
        let spot ← Survey.ask p fun v => v.find p
        (candidates (← Survey.volume) p spot.place).foldlM insertFile s
      else
        Survey.note .warning Detector.logger ("Detector directory not found: " ++ p.toString) []
        return s

def load (folders : List DetectorFolder) : Survey DetectorSet := do
  let s ← folders.foldlM insertFolder empty
  Survey.note .info Detector.logger
    ("Loaded " ++ Nat.repr s.detectors.length ++ " detector(s), rejected " ++
      Nat.repr s.rejected.length) []
  return s

end DetectorSet

end SiteSurvey
