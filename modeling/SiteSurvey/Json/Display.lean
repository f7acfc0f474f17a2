import SiteSurvey.Json.Printer
import SiteSurvey.Text.Quoted

set_option autoImplicit false

namespace SiteSurvey.Json

def typeName : Json → String
  | .null => "NoneType"
  | .bool _ => "bool"
  | .int _ => "int"
  | .real _ => "float"
  | .string _ => "str"
  | .array _ => "list"
  | .object _ => "dict"

mutual

def shown : Json → Text
  | .null => "None"
  | .bool true => "True"
  | .bool false => "False"
  | .int n => Text.ofInt n
  | .real r => r.text
  | .string s => s.quoted
  | .array [] => "[]"
  | .array (v :: rest) => "[" ++ shown v ++ shownItems rest ++ "]"
  | .object [] => "\x7b\x7d"
  | .object ((k, v) :: rest) => "\x7b" ++ k.quoted ++ ": " ++ shown v ++ shownMembers rest ++ "\x7d"

def shownItems : List Json → Text
  | [] => []
  | v :: rest => ", " ++ shown v ++ shownItems rest

def shownMembers : List (Text × Json) → Text
  | [] => []
  | (k, v) :: rest => ", " ++ k.quoted ++ ": " ++ shown v ++ shownMembers rest

end

def display : Json → Text
  | .string s => s
  | v => shown v

/-- Values that count as nothing. -/
def isNothing : Json → Bool
  | .null => true
  | .bool b => !b
  | .int n => n == 0
  | .real (.decimal _ mantissa _) => mantissa == 0
  | .real _ => false
  | .string s => s.isEmpty
  | .array items => items.isEmpty
  | .object members => members.isEmpty

end SiteSurvey.Json
