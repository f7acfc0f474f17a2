import SiteSurvey.Request.Extract
import SiteSurvey.Source
import SiteSurvey.Survey.Pool

set_option autoImplicit false

namespace SiteSurvey

/-- The requests that the scripts of a site can send. A file that could not be analyzed is listed, so that
its silence is not taken for the lack of requests. -/
structure RequestSurface where
  site : String
  analyzed : Nat
  unanalyzable : List String
  findings : List Request.Finding
  deriving Inhabited

namespace RequestSurface

def logger : String := "jsrecon.scanners.nodejs.request_extractor"

structure Outcome where
  file : String
  findings : Option (List Request.Finding)
  deriving Inhabited

def findingsOf (senders : Request.Senders) (s : Source) : Option (List Request.Finding) :=
  let text := String.ofList s.text.toList
  match Script.parseStrict (Script.Language.ofPath s.path) text (some s.displayName) with
  | .ok tree => some (Request.extract senders s.displayName tree.root).findings
  | .error _ => none

def readOrNote (logger : String) (p : Path) (root : Option Path) : Survey (Option Source) := do
  try return some (← Source.read p root)
  catch f =>
    match f with
    | .unreadable message =>
        Survey.note .warning logger (Text.ofString "Skipping unreadable file: " ++ message) []
        return none
    | f => throw f

def analyzeFile (senders : Request.Senders) (root : Option Path) (p : Path) : Survey Outcome := do
  match ← readOrNote logger p root with
  | none => return { file := p.toString, findings := none }
  | some s => return { file := s.displayName, findings := findingsOf senders s }

def add (r : RequestSurface) (o : Outcome) : RequestSurface :=
  match o.findings with
  | none => { r with unanalyzable := r.unanalyzable ++ [o.file] }
  | some fs => { r with analyzed := r.analyzed + 1, findings := r.findings ++ fs }

def ofOutcomes (site : String) (outcomes : List Outcome) : RequestSurface :=
  outcomes.foldl add { site, analyzed := 0, unanalyzable := [], findings := [] }

def summary (r : RequestSurface) : String :=
  "Request surface for " ++ r.site ++ ": " ++ Nat.repr r.findings.length ++ " finding(s) in " ++
    Nat.repr r.analyzed ++ " file(s), " ++ Nat.repr r.unanalyzable.length ++ " unanalyzable"

def analyze (senders : Request.Senders) (site : String) (root : Option Path) (paths : List Path)
    (workers : Int := 1) (turns : Nat → Pool.Turn := Pool.inLine) : Survey RequestSurface := do
  let r := ofOutcomes site (← Pool.each workers turns (analyzeFile senders root) paths)
  Survey.note .info logger r.summary []
  return r

def toJson (r : RequestSurface) : Json :=
  .array (r.findings.map Request.Finding.toJson)

end RequestSurface

end SiteSurvey
