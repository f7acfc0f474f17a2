import SiteSurvey.Artifact
import SiteSurvey.Json.Reader
import SiteSurvey.Signal
import SiteSurvey.Source

set_option autoImplicit false

namespace SiteSurvey.Signal

def logger : String := "jsrecon.scanners.signal_filter"

def fileStart : String := "goods_signals_"

/-- The text of a file that has to be well-formed, with each end of a line as one character. -/
def readText (p : Path) : Survey Text := do
  let bytes ← Survey.ask p fun v => v.read p
  match Utf8.decode bytes with
  | .error f => throw (.undecodable f.message)
  | .ok t => return Text.ofChars (Source.unifyLines (Text.toChars t).toArray).toList

def isObject : Json → Bool
  | .object _ => true
  | _ => false

def listed (v : Json) : Nat :=
  match v.get? "findings" with
  | some (.array findings) => findings.length
  | _ => 0

/-- Why a report cannot be read. An integer that is too long is a fault of its own. -/
def unread (text : Text) (e : Json.ReadError) : Failure :=
  match e.complaint with
  | .tooManyDigits _ => .badValue e.complaint.message
  | _ => .invalidInput (Text.ofString "Machine report is not valid JSON: " ++ e.message text)

def extract (report : Path) : Survey Path := do
  if !(← Survey.ask report fun v => v.isFile report) then
    throw (.missingFile ("Machine report not found: " ++ report.toString))
  let text ← readText report
  match Json.read text with
  | .error e => throw (unread text e)
  | .ok (.array records) =>
      let signals ← Survey.ofExcept (ofRecords (records.filter isObject))
      let path ← Artifact.uniquePath report.parent fileStart ".json"
      let written ← Artifact.writeJson path (.array (signals.map toJson))
      let total := records.foldl (fun count v => count + listed v) 0
      Survey.note .info logger
        ("Kept " ++ Nat.repr signals.length ++ " of " ++ Nat.repr total ++ " match(es) as signals: " ++
          path.toString) []
      return written
  | .ok _ => throw (.invalidInput "Machine report must be a JSON list of scan records")

end SiteSurvey.Signal
