import SiteSurvey.Text.Basic
import SiteSurvey.Unicode.Case

set_option autoImplicit false

namespace SiteSurvey.Text

def codes (t : Text) : List Nat :=
  t.map (·.val)

def ofCodes (ns : List Nat) : Text :=
  ns.map CodePoint.ofNat

def upper (t : Text) : Text :=
  ofCodes (Unicode.upper t.codes)

def lower (t : Text) : Text :=
  ofCodes (Unicode.lower t.codes)

def lowerString (s : String) : String :=
  (lower (ofString s)).toString

end SiteSurvey.Text
