import SiteSurvey.Json.Basic

set_option autoImplicit false

namespace SiteSurvey

/-- How grave a notice is. Some levels have a name of their own. -/
structure Level where
  number : Int
  deriving DecidableEq, Repr, Inhabited

namespace Level

def unset : Level := ⟨0⟩

def debug : Level := ⟨10⟩

def info : Level := ⟨20⟩

def warning : Level := ⟨30⟩

def error : Level := ⟨40⟩

def critical : Level := ⟨50⟩

def name (l : Level) : String :=
  match l.number with
  | 0 => "NOTSET"
  | 10 => "DEBUG"
  | 20 => "INFO"
  | 30 => "WARNING"
  | 40 => "ERROR"
  | 50 => "CRITICAL"
  | n => "Level " ++ Int.repr n

/-- The level of a name. Two levels have a second one. -/
def ofName? : String → Option Level
  | "NOTSET" => some unset
  | "DEBUG" => some debug
  | "INFO" => some info
  | "WARNING" | "WARN" => some warning
  | "ERROR" => some error
  | "CRITICAL" | "FATAL" => some critical
  | _ => none

end Level

structure Notice where
  level : Level
  logger : String
  message : Text
  fields : List (Text × Json)
  deriving Inhabited

namespace Notice

/-- What a notice can be about, in the order in which it is written. -/
def fieldNames : List String :=
  ["event", "site", "stage", "file", "detector", "count", "artifact", "error"]

def known (fields : List (Text × Json)) : List (Text × Json) :=
  fieldNames.filterMap fun name =>
    (Json.lookup fields (Text.ofString name)).map fun v => (Text.ofString name, v)

def members (n : Notice) : List (Text × Json) :=
  ("level", .string n.level.name) :: ("logger", .string n.logger) :: ("message", .string n.message) ::
    known n.fields

end Notice

end SiteSurvey
