import SiteSurvey.Json.Basic
import SiteSurvey.Request.Scope

set_option autoImplicit false

namespace SiteSurvey.Request

inductive Confidence where
  | high
  | medium
  deriving DecidableEq, Repr, Inhabited

namespace Confidence

def name : Confidence → String
  | high => "high"
  | medium => "medium"

def all : List Confidence :=
  [high, medium]

def ofName? (name : String) : Option Confidence :=
  all.find? fun c => c.name == name

theorem ofName?_name (c : Confidence) : ofName? c.name = some c := by
  cases c <;> decide

end Confidence

/-- A request that a source makes: its method, its endpoint where that can be told, the names of the
parameters in its body and how the body is encoded. -/
structure Finding where
  file : Text
  method : Text
  endpoint : Option Text
  params : List Text
  encoding : Encoding
  confidence : Confidence
  deriving DecidableEq, Repr

namespace Finding

def endpointJson : Option Text → Json
  | none => .null
  | some t => .string t

def toJsonWith (paramsName encodingName : String) (f : Finding) : Json :=
  .object
    [("file", .string f.file), ("method", .string f.method), ("endpoint", endpointJson f.endpoint),
     (paramsName, .array (f.params.map .string)),
     (encodingName, .string f.encoding.name),
     ("confidence", .string f.confidence.name)]

def toJson (f : Finding) : Json :=
  f.toJsonWith "bodyParams" "bodyType"

end Finding

end SiteSurvey.Request
