import SiteSurvey.Text.Trim

set_option autoImplicit false

namespace SiteSurvey.Scan

/-- The offset that a number denotes in a text: one below zero counts from the end, and none goes
beyond either end. -/
def clip (length : Nat) (i : Int) : Nat :=
  if i < 0 then (i + length).toNat else min i.toNat length

def window (text : Array Char) (start stop : Nat) : List Char :=
  (text.extract start stop).toList

/-- The text around a stretch, on one line: as many characters as the radius says on either side, with
each run of blanks as one blank and none at the ends. -/
def context (text : Array Char) (start stop radius : Int) : Text :=
  let first := clip text.size (max 0 (start - radius))
  let last := clip text.size (min text.size (stop + radius))
  Text.trim (Text.squeeze (Text.ofChars (window text first last)))

end SiteSurvey.Scan
