import SiteSurvey.Failure
import SiteSurvey.Text.Integer

set_option autoImplicit false

namespace SiteSurvey.Setting

/-- A number kept within its bounds. Where the bounds cross, the upper one holds. -/
def clamp (low : Int) (high : Option Int) (n : Int) : Int :=
  match high with
  | some h => min (max n low) h
  | none => max n low

/-- The number that a setting comes to: the one that is written down, or else the usual one, kept
within its bounds. -/
def integer (written : Option String) (usual low : Int) (high : Option Int) : Except Failure Int :=
  match written with
  | none => .ok (clamp low high usual)
  | some s =>
      match Text.integer (Text.ofString s) with
      | .ok n => .ok (clamp low high n)
      | .error fault => .error (.badValue (fault.message (Text.ofString s)))

end SiteSurvey.Setting
