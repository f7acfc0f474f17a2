import SiteSurvey.Failure
import SiteSurvey.Json.Display
import SiteSurvey.Text.Case

set_option autoImplicit false

namespace SiteSurvey

structure Signal where
  file : Text
  detector : Text
  matched : Text
  context : Text
  deriving DecidableEq, Repr

namespace Signal

def minLength : Nat := 3

def stopList : List String :=
  ["user", "type", "id", "context", "set", "value"]

def isAsciiDigit (c : CodePoint) : Bool :=
  0x30 ≤ c.val && c.val ≤ 0x39

/-- A text is worth a look if it is long enough, is not on the list and does not consist of digits. -/
def isWorthy (t : Text) : Bool :=
  minLength < t.length && !stopList.contains (Text.lower t).toString && !t.all isAsciiDigit

def isSignal : Json → Bool
  | .string t => isWorthy t
  | _ => false

/-- The text of a member that may be missing or of any type. -/
def memberText (members : List (Text × Json)) (key : String) : Text :=
  match Json.lookup members (Text.ofString key) with
  | some v => if v.isNothing then [] else v.display
  | none => []

def ofFinding (file detector : Text) : Json → Option Signal
  | .object members =>
      match Json.lookup members (Text.ofString "match") with
      | some (.string matched) =>
          if isWorthy matched then
            some { file, detector, matched, context := memberText members "context" }
          else none
      | _ => none
  | _ => none

def ofRecord (members : List (Text × Json)) : List Signal :=
  match Json.lookup members (Text.ofString "findings") with
  | some (.array findings) =>
      findings.filterMap (ofFinding (memberText members "file") (memberText members "regex"))
  | _ => []

def ofRecords : List Json → Except Failure (List Signal)
  | [] => .ok []
  | .object members :: rest =>
      match ofRecords rest with
      | .ok signals => .ok (ofRecord members ++ signals)
      | .error f => .error f
  | v :: _ =>
      .error (.noMember (Text.ofString ("'" ++ v.typeName ++ "' object has no attribute 'get'")))

def triage : Json → Except Failure (List Signal)
  | .array records => ofRecords records
  | .string t => ofRecords (t.map fun c => .string [c])
  | .object members => ofRecords (members.map fun m => .string m.1)
  | v => .error (.badType (Text.ofString ("'" ++ v.typeName ++ "' object is not iterable")))

def toJson (s : Signal) : Json :=
  .object
    [("file", .string s.file), ("regex", .string s.detector), ("match", .string s.matched),
     ("context", .string s.context)]

end Signal

end SiteSurvey
