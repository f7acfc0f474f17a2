import SiteSurvey.Detector.Basic
import SiteSurvey.Json.Check
import SiteSurvey.Scan.Context
import SiteSurvey.Scan.Occurrence

set_option autoImplicit false

namespace SiteSurvey.Scan

structure Hit where
  matched : Text
  context : Text
  deriving DecidableEq, Repr

structure Record where
  file : Text
  detector : Text
  hits : List Hit
  deriving DecidableEq, Repr

def addHit (known : List Hit) (h : Hit) : List Hit :=
  if known.contains h then known else known ++ [h]

def hitAt (text : Array Char) (radius : Int) (s : Span) : Hit where
  matched := Text.ofChars (window text s.start s.stop)
  context := context text s.start s.stop radius

/-- The different hits of a detector in a text, each where it first occurs. -/
def hits (radius : Int) (text : Array Char) (d : Detector) : List Hit :=
  ((occurrences d.pattern text).map (hitAt text radius)).foldl addHit []

/-- The records of a text, in the order of the detectors. A detector without a hit has none. -/
def records (radius : Int) (file : String) (text : Array Char) (ds : List Detector) : List Record :=
  ds.filterMap fun d =>
    match hits radius text d with
    | [] => none
    | hs => some { file, detector := d.name, hits := hs }

def Hit.toJson (h : Hit) : Json :=
  .object [("match", .string h.matched), ("context", .string h.context)]

def Record.toJson (r : Record) : Json :=
  .object
    [("file", .string r.file), ("regex", .string r.detector),
     ("findings", .array (r.hits.map Hit.toJson))]

open SiteSurvey.Json in
def Hit.ofJson (v : Json) : Checked Hit :=
  match asMembers v with
  | .error issues => .error issues
  | .ok members =>
      ((field members ["match"] none asText).both (field members ["context"] none asText)).map
        fun (matched, context) => { matched, context }

open SiteSurvey.Json in
def Record.ofJson (v : Json) : Checked Record :=
  match asMembers v with
  | .error issues => .error issues
  | .ok members =>
      let parts :=
        (field members ["file"] none asText).both <|
        (field members ["regex"] none asText).both <|
        field members ["findings"] (some []) (asList Hit.ofJson)
      parts.map fun (file, detector, hits) => { file, detector, hits }

def hitLines (h : Hit) : List Text :=
  [Text.ofString "- Match: " ++ h.matched, Text.ofString "  Context: " ++ h.context]

def recordLines (r : Record) : List Text :=
  [Text.ofString "File: " ++ r.file, Text.ofString "Regex: " ++ r.detector,
    Text.ofString "Findings:"] ++ r.hits.flatMap hitLines ++ [[]]

def render (rs : List Record) : Text :=
  Text.join "\n" (rs.flatMap recordLines)

end SiteSurvey.Scan
