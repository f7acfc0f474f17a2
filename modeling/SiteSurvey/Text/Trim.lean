import SiteSurvey.Text.Basic
import SiteSurvey.Unicode.Blank

set_option autoImplicit false

namespace SiteSurvey.Text

def isBlank (c : CodePoint) : Bool :=
  Unicode.isBlank c.val

def trim (t : Text) : Text :=
  ((t.dropWhile isBlank).reverse.dropWhile isBlank).reverse

/-- Each run of blanks as one blank. `inside` says that the run so far has been written. -/
def squeezeFrom (inside : Bool) : Text → Text
  | [] => []
  | c :: rest =>
      if isBlank c then
        if inside then squeezeFrom true rest else CodePoint.ofChar ' ' :: squeezeFrom true rest
      else c :: squeezeFrom false rest

def squeeze (t : Text) : Text :=
  squeezeFrom false t

end SiteSurvey.Text
