import SiteSurvey.Json.Printer
import SiteSurvey.Log.Moment
import SiteSurvey.Log.Notice
import SiteSurvey.Template.Fill

set_option autoImplicit false

namespace SiteSurvey.Notice

def timestamp (m : Moment) (millisecond : Nat) : Text :=
  m.secondText ++ "," ++ Moment.padded 3 millisecond

/-- The message of a template and its values. A template without values stays as it is. -/
def messageOf (template : Text) (values : List Json) : Except Failure Text :=
  if values.isEmpty then .ok template else Template.fill template values

def failureText (text : Text) : Text :=
  if text.isEmpty then "RuntimeError" else Text.ofString "RuntimeError: " ++ text

/-- The line of a notice in a log: an object in ASCII with the time before all else, and after it all the text of a
failure, if there is one. -/
def line (m : Moment) (millisecond : Nat) (n : Notice) (failure : Option Text) : Text :=
  let ending := match failure with
    | some text => [(Text.ofString "exception", Json.string text)]
    | none => []
  let opening := (Text.ofString "timestamp", Json.string (timestamp m millisecond))
  Json.print .compact (.object (opening :: n.members ++ ending))

end SiteSurvey.Notice
