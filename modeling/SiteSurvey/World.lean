import SiteSurvey.Failure
import SiteSurvey.Log.Moment
import SiteSurvey.Log.Notice
import SiteSurvey.Volume.Change

set_option autoImplicit false

namespace SiteSurvey

/-- What a survey works on: a volume, a clock, and the notices so far, the latest last. -/
structure World where
  volume : Volume
  clock : Moment
  notices : List Notice
  deriving Inhabited

/-- A part of a survey. A failure ends it, but what was done before stays done. -/
abbrev Survey := ExceptT Failure (StateM World)

namespace Survey

def volume : Survey Volume := do
  return (← get).volume

def note (level : Level) (logger : String) (message : Text) (fields : List (Text × Json)) :
    Survey Unit :=
  modify fun w => { w with notices := w.notices ++ [{ level, logger, message, fields }] }

def change (f : Volume → Volume) : Survey Unit :=
  modify fun w => { w with volume := f w.volume }

/-- Carries out a change to the volume. A trouble with it becomes the failure that is asked for. -/
def apply {α : Type} (failure : Trouble → Failure) (c : Volume.Change α) : Survey α := do
  let w ← get
  let (result, volume) := c.run w.volume
  set { w with volume }
  match result with
  | .ok a => return a
  | .error t => throw (failure t)

def ask {α : Type} (p : Path) (question : Volume → Except VolumeFault α) : Survey α :=
  apply Failure.ofTrouble (Volume.ask p question)

/-- Takes a failure for a result. -/
def attempt {α : Type} (x : Survey α) : Survey (Except Failure α) := do
  try pure (.ok (← x))
  catch f => pure (.error f)

def ofExcept {α : Type} : Except Failure α → Survey α
  | .ok a => return a
  | .error f => throw f

end Survey

end SiteSurvey
