import SiteSurvey.Script.Strict
import SiteSurvey.Volume.Fault

set_option autoImplicit false

namespace SiteSurvey

inductive Failure where
  | script (fault : Script.SyntaxFault)
  | invalidInput (message : Text)
  | detector (name : Text) (message : Text)
  | unreadable (message : Text)
  | unwritable (path : Text) (message : Text)
  | missingFile (message : Text)
  | system (trouble : Trouble)
  | badValue (message : Text)
  | badType (message : Text)
  | noMember (message : Text)
  | tooLarge (message : Text)
  | unencodable (message : Text)
  | undecodable (message : Text)
  | badKey (message : Text)
  | badPattern (message : Text)
  | linkLoop (message : Text)
  deriving DecidableEq, Repr

namespace Failure

def message : Failure → Text
  | script fault => fault.message
  | system trouble => trouble.message
  | invalidInput m | unreadable m | missingFile m | badValue m | badType m | noMember m
  | tooLarge m | unencodable m | undecodable m | badKey m | badPattern m | linkLoop m => m
  | detector _ m | unwritable _ m => m

/-- Failures that the survey or the file system foresees. The others are faults of their own. -/
def isForeseen : Failure → Bool
  | script _ | invalidInput _ | detector _ _ | unreadable _ | unwritable _ _ | missingFile _
  | system _ => true
  | _ => false

/-- The failure that a trouble with a volume comes to. A name that no volume can hold is a fault of its
own. -/
def ofTrouble (t : Trouble) : Failure :=
  if t.fault = .nullByte then .badValue t.message else .system t

end Failure

end SiteSurvey
