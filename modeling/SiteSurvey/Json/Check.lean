import SiteSurvey.Json.Basic

set_option autoImplicit false

namespace SiteSurvey.Json

inductive Step where
  | member (key : String)
  | item (index : Nat)
  deriving DecidableEq, Repr, Inhabited

inductive Fault where
  | missing
  | notText
  | notList
  | notAmong
  | notObject
  deriving DecidableEq, Repr, Inhabited

def Fault.name : Fault → String
  | missing => "missing"
  | notText => "string_type"
  | notList => "list_type"
  | notAmong => "enum"
  | notObject => "model_type"

structure Issue where
  fault : Fault
  place : List Step
  deriving DecidableEq, Repr

def Issue.under (step : Step) (i : Issue) : Issue :=
  { i with place := step :: i.place }

/-- The outcome of a check: what was looked for, or everything that is wrong. -/
abbrev Checked (α : Type) := Except (List Issue) α

namespace Checked

def fail {α : Type} (fault : Fault) : Checked α :=
  .error [{ fault, place := [] }]

def under {α : Type} (step : Step) : Checked α → Checked α
  | .ok a => .ok a
  | .error issues => .error (issues.map (Issue.under step))

def both {α β : Type} : Checked α → Checked β → Checked (α × β)
  | .ok a, .ok b => .ok (a, b)
  | .ok _, .error e => .error e
  | .error e, .ok _ => .error e
  | .error e, .error e' => .error (e ++ e')

end Checked

def asText : Json → Checked Text
  | .string s => .ok s
  | _ => .fail .notText

def asNamed {α : Type} (ofName? : String → Option α) : Json → Checked α
  | .string s =>
      match s.string?.bind ofName? with
      | some a => .ok a
      | none => .fail .notAmong
  | _ => .fail .notAmong

def checkItems {α : Type} (check : Json → Checked α) : Nat → List Json → Checked (List α)
  | _, [] => .ok []
  | index, v :: rest =>
      match (Checked.under (.item index) (check v)).both (checkItems check (index + 1) rest) with
      | .ok (a, as) => .ok (a :: as)
      | .error issues => .error issues

def asList {α : Type} (check : Json → Checked α) : Json → Checked (List α)
  | .array items => checkItems check 0 items
  | _ => .fail .notList

def firstMember? (members : List (Text × Json)) : List String → Option (String × Json)
  | [] => none
  | key :: rest =>
      match lookup members (Text.ofString key) with
      | some v => some (key, v)
      | none => firstMember? members rest

/-- A member that may go by several keys. Without a default it has to be there. -/
def field {α : Type} (members : List (Text × Json)) (keys : List String) (default : Option α)
    (check : Json → Checked α) : Checked α :=
  match firstMember? members keys with
  | some (key, v) => (check v).under (.member key)
  | none =>
      match default with
      | some a => .ok a
      | none => Checked.under (.member (keys.headD "")) (.fail .missing)

def asMembers : Json → Checked (List (Text × Json))
  | .object members => .ok members
  | _ => .fail .notObject

end SiteSurvey.Json
