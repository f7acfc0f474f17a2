import SiteSurvey.Json.Printer
import SiteSurvey.Text.Utf8
import SiteSurvey.World

set_option autoImplicit false

namespace SiteSurvey.Artifact

def unwritable (p : Path) (t : Trouble) : Failure :=
  if t.fault = .nullByte then .ofTrouble t
  else .unwritable p.toString ("Failed to write " ++ p.toString ++ ": " ++ t.message)

/-- Writes a text to a file: first to a temporary file beside it, which then takes its place. So the file
holds either what it held before or the whole text, whatever the system refuses on the way. -/
def writeText (p : Path) (content : Text) (system : Volume.System := .willing) : Survey Path := do
  let (place, name) ← Survey.apply (unwritable p) do
    Volume.ensureFolders p.parent system
    Volume.makeTemporary p.parent p.name (system.refusal .makeTemporary)
  match Utf8.firstSurrogates? content with
  | some (position, surrogates) => throw (.unencodable (Utf8.surrogateMessage position surrogates))
  | none =>
      try Survey.apply (unwritable p) do
        Volume.fill place (Utf8.encode content) system
        Volume.move place name p (system.refusal .move)
      catch f =>
        Survey.change fun v => v.discard place system
        throw f
      return p

inductive Misshape where
  | foreign (type : String)
  | circular
  | longInteger
  deriving DecidableEq, Repr

def Misshape.message : Misshape → String
  | foreign type => "Object of type " ++ type ++ " is not JSON serializable"
  | circular => "Circular reference detected"
  | longInteger =>
      "Exceeds the limit (4300 digits) for integer string conversion; " ++
        "use sys.set_int_max_str_digits() to increase the limit"

def refuse (p : Path) (m : Misshape) : Failure :=
  .unwritable p.toString ("Failed to serialize " ++ p.toString ++ ": " ++ m.message)

def writeJson (p : Path) (v : Json) (system : Volume.System := .willing) : Survey Path :=
  if v.hasLongInteger then throw (refuse p .longInteger)
  else writeText p (Json.print .report v) system

def candidate (folder : Path) (opening ending : String) (m : Moment) (count : Nat) : Path :=
  folder / (opening ++ m.stamp ++ (if count == 0 then "" else "-" ++ Nat.repr count) ++ ending)

def firstFree (folder : Path) (opening ending : String) (m : Moment) : Nat → Nat → Survey Path
  | 0, count => return candidate folder opening ending m count
  | fuel + 1, count => do
      let p := candidate folder opening ending m count
      if ← Survey.ask p fun v => v.isPresent p then firstFree folder opening ending m fuel (count + 1)
      else return p

/-- A path named after the time at which nothing stands yet. -/
def uniquePath (folder : Path) (opening ending : String) : Survey Path := do
  let w ← get
  firstFree folder opening ending w.clock (w.volume.entries.length + 1) 0

end SiteSurvey.Artifact
