import SiteSurvey.Survey.Analysis

set_option autoImplicit false

namespace SiteSurvey.Tool

def logger : String := "jsrecon"

/-- How a tool is to work: where its reports go and which folders of detectors are used beside those
that come with the survey. -/
def config (output : Option String) (folders : List String) : Config :=
  let root := match output with
    | none | some "" => Config.usual.outputRoot
    | some s => .ofString s
  { Config.usual with
    outputRoot := root,
    detectorFolders := Config.usual.detectorFolders ++ folders.map fun s => .folder (.ofString s) }

def heading (title site : String) (clock : Moment) : List Text :=
  ["# " ++ title, "Site: " ++ site, "Date: " ++ clock.minuteText, "", "## Summary"]

def item (label : String) (value : Text) : Text :=
  Text.ofString ("- " ++ label ++ ": ") ++ value

def listing (title : String) : List Text → List Text
  | [] => []
  | lines => Text.ofString ("\n## " ++ title) :: lines

def bullet (t : Text) : Text :=
  Text.ofString "- " ++ t

def requestLine (f : Request.Finding) : Text :=
  let endpoint : Text := match f.endpoint with
    | none | some [] => "<unresolved>"
    | some t => t
  let params := Text.join ", " f.params
  Text.ofString "- `" ++ f.method ++ " " ++ endpoint ++ "` (" ++ f.encoding.name ++ ", " ++
    f.confidence.name ++ ") params: " ++ (if params.isEmpty then Text.ofString "-" else params) ++ " [" ++
    f.file ++ "]"

def requestReport (clock : Moment) (r : RequestSurface) (artifact : Path) : Text :=
  let requests : List Text :=
    if r.findings.isEmpty then ["\nNo modifiable requests detected."]
    else listing "Requests" (r.findings.map requestLine)
  Text.join "\n" <|
    heading "Request Surface Report" r.site clock ++
    [item "Files analyzed" (Text.ofNat r.analyzed),
     item "Files not analyzable" (Text.ofNat r.unanalyzable.length),
     item "Requests found" (Text.ofNat r.findings.length),
     item "Report" artifact.toString] ++
    requests ++
    listing "Not Analyzable" (r.unanalyzable.map fun name => bullet (Text.ofString name))

def scanReport (clock : Moment) (r : PatternScan) (machine human : Path) : Text :=
  let counts := r.counts.mergeSort fun a b => b.2 ≤ a.2
  Text.join "\n" <|
    heading "Pattern Scan Report" r.site clock ++
    [item "Files scanned" (Text.ofNat r.scanned),
     item "Detectors applied" (Text.ofNat r.detectors.length),
     item "Unique matches" (Text.ofNat r.total),
     item "Machine report" machine.toString,
     item "Human report" human.toString] ++
    listing "Rejected Detectors" (r.rejected.map bullet) ++
    listing "Matches by Detector" (counts.map fun (name, n) => bullet (name ++ ": " ++ Text.ofNat n))

/-- Answers a foreseen failure with its message, after noting it. -/
def guarded (doing site : String) (act : Survey Text) : Survey Text := do
  try act
  catch f =>
    if f.isForeseen then
      Survey.note .error logger (Text.ofString ("Error " ++ doing ++ " " ++ site ++ ": ") ++ f.message) []
      pure (Text.ofString "Error: " ++ f.message)
    else throw f

def requestSurface (site folder : String) (output : Option String) : Survey Text := do
  let c := config output []
  let root := Path.ofString folder
  let paths ← Source.collect root c.extensions
  let (report, artifact) ← Analysis.runRequestSurface site paths c (some root)
  return requestReport (← get).clock report artifact

def extractRequestSurface (site folder : String) (output : Option String) : Survey Text :=
  guarded "extracting request surface for" site (requestSurface site folder output)

def patternScan (site folder : String) (folders : List String) (output : Option String) : Survey Text := do
  let c := config output folders
  let root := Path.ofString folder
  let paths ← Source.collect root c.extensions
  let (report, machine, human) ← Analysis.runPatternScan site paths c (some root)
  return scanReport (← get).clock report machine human

def runPatternScan (site folder : String) (folders : List String) (output : Option String) :
    Survey Text :=
  guarded "running pattern scan for" site (patternScan site folder folders output)

def itemCount (p : Path) : Survey Nat := do
  match Json.read (← Signal.readText p) with
  | .ok (.array items) => return items.length
  | _ => return 0

def signals (site : String) (output : Option String) : Survey Text := do
  let path ← Analysis.runTriage site (config output [])
  return Nat.repr (← itemCount path) ++ " signal(s) saved to " ++ path.toString

def extractSignals (site : String) (output : Option String) : Survey Text :=
  guarded "extracting signals for" site (signals site output)

def analysis (site folder : String) (output : Option String) : Survey Text := do
  let a ← Analysis.run site (.ofString folder) (config output [])
  let clock := (← get).clock
  return Text.join "\n"
    [requestReport clock a.requestSurface a.artifacts.requestSurface, [],
     scanReport clock a.patternScan a.artifacts.machineReport a.artifacts.humanReport, [],
     "These might be worth a look: " ++ a.artifacts.signals.toString]

def analyzeSite (site folder : String) (output : Option String) : Survey Text :=
  guarded "analyzing" site (analysis site folder output)

end SiteSurvey.Tool
