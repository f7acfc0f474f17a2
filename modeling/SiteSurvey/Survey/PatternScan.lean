import SiteSurvey.Detector.Load
import SiteSurvey.Scan.Record
import SiteSurvey.Survey.RequestSurface

set_option autoImplicit false

namespace SiteSurvey

structure PatternScan where
  site : String
  detectors : List String
  rejected : List Text
  scanned : Nat
  unreadable : List String
  records : List Scan.Record
  deriving Inhabited

namespace PatternScan

def logger : String := "jsrecon.scanners.patterns.engine"

structure Outcome where
  file : String
  records : Option (List Scan.Record)
  deriving Inhabited

def scanFile (radius : Int) (ds : List Detector) (root : Option Path) (p : Path) : Survey Outcome := do
  match ← RequestSurface.readOrNote logger p root with
  | none => return { file := p.toString, records := none }
  | some s => return { file := s.displayName, records := some (Scan.records radius s.displayName s.text ds) }

def add (r : PatternScan) (o : Outcome) : PatternScan :=
  match o.records with
  | none => { r with unreadable := r.unreadable ++ [o.file] }
  | some rs => { r with scanned := r.scanned + 1, records := r.records ++ rs }

def ofOutcomes (site : String) (ds : List Detector) (outcomes : List Outcome) : PatternScan :=
  outcomes.foldl add
    { site, detectors := ds.map (·.name), rejected := [], scanned := 0, unreadable := [], records := [] }

def total (r : PatternScan) : Nat :=
  r.records.foldl (fun count record => count + record.hits.length) 0

def summary (r : PatternScan) : String :=
  "Pattern scan for " ++ r.site ++ ": " ++ Nat.repr r.total ++ " unique match(es) in " ++
    Nat.repr r.records.length ++ " record(s) across " ++ Nat.repr r.scanned ++ " file(s)"

/-- The hits in some files, in the order of the files and for each in that of the detectors. -/
def scan (radius : Int) (ds : List Detector) (site : String) (root : Option Path) (paths : List Path)
    (workers : Int := 1) (turns : Nat → Pool.Turn := Pool.inLine) : Survey PatternScan := do
  let r := ofOutcomes site ds (← Pool.each workers turns (scanFile radius ds root) paths)
  Survey.note .info logger r.summary []
  return r

def toJson (r : PatternScan) : Json :=
  .array (r.records.map Scan.Record.toJson)

def counts (r : PatternScan) : List (Text × Nat) :=
  r.records.foldl (fun known record =>
    Json.put known record.detector ((Json.lookup known record.detector).getD 0 + record.hits.length)) []

end PatternScan

end SiteSurvey
