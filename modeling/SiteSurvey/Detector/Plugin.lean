import SiteSurvey.Detector.Offer

set_option autoImplicit false

namespace SiteSurvey.Detector

/-- What a file with a detector brings along: a name of any type, an offer of a pattern, or a complaint
that keeps it from being loaded at all. -/
structure Plugin where
  name : Option Json
  offer : Option Offer
  complaint : Option String
  deriving Inhabited

namespace Plugin

def blank : Plugin :=
  { name := none, offer := none, complaint := none }

/-- The name of the detector: the one that is brought along, or else the name of the file. -/
def nameFor (fileName : String) (p : Plugin) : Option String :=
  match p.name with
  | none => some fileName
  | some (.string s) => if s.isEmpty then none else some s.toString
  | some _ => none

def load (fileName : String) (p : Plugin) : Except Refusal Detector :=
  let reject := fun (reason : Rejection) => .error (.rejected fileName reason)
  match p.complaint, p.offer with
  | some text, _ => reject (.importFailed text)
  | none, none => reject .noPattern
  | none, some offer =>
      match offer.outcome with
      | .error misfit => reject (.importFailed misfit.message)
      | .ok e =>
          match p.nameFor fileName with
          | none => reject .badName
          | some name => make name e

end Plugin

end SiteSurvey.Detector
