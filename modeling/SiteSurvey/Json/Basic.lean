import SiteSurvey.Text.Basic

set_option autoImplicit false

namespace SiteSurvey

/-- A number that was written with a fraction or an exponent: the decimal
`mantissa * 10 ^ exponent`, or one of the values beyond all decimals. -/
inductive Real where
  | decimal (negative : Bool) (mantissa : Nat) (exponent : Int)
  | infinite (negative : Bool)
  | undefined
  deriving DecidableEq, Repr, Inhabited

/-- A value of the data format of reports. The members of an object keep their order, and each key
occurs once. -/
inductive Json where
  | null
  | bool (b : Bool)
  | int (n : Int)
  | real (r : Real)
  | string (s : Text)
  | array (items : List Json)
  | object (members : List (Text × Json))
  deriving Inhabited

namespace Json

/-- Sets a member: an old key keeps its place, a new one goes to the end. -/
def put {α : Type} (members : List (Text × α)) (key : Text) (value : α) : List (Text × α) :=
  match members with
  | [] => [(key, value)]
  | (k, v) :: rest => if k = key then (k, value) :: rest else (k, v) :: put rest key value

def lookup {α : Type} (members : List (Text × α)) (key : Text) : Option α :=
  (members.find? fun m => m.1 = key).map (·.2)

def get? (v : Json) (key : String) : Option Json :=
  match v with
  | .object members => lookup members (Text.ofString key)
  | _ => none

theorem lookup_put_self {α : Type} (members : List (Text × α)) (key : Text) (value : α) :
    lookup (put members key value) key = some value := by
  induction members with
  | nil => simp [put, lookup]
  | cons m rest ih =>
      obtain ⟨k, v⟩ := m
      by_cases h : k = key
      · simp [put, lookup, h]
      · simp only [put, if_neg h, lookup] at *
        simpa [List.find?_cons, h] using ih

theorem lookup_put_other {α : Type} (members : List (Text × α)) (key other : Text) (value : α)
    (differs : other ≠ key) : lookup (put members key value) other = lookup members other := by
  induction members with
  | nil => simp [put, lookup, Ne.symm differs]
  | cons m rest ih =>
      obtain ⟨k, v⟩ := m
      by_cases h : k = key
      · subst h
        simp [put, lookup, Ne.symm differs]
      · by_cases g : k = other
        · subst g
          simp [put, lookup, h]
        · simp only [put, if_neg h, lookup] at *
          simpa [List.find?_cons, g] using ih

end Json

end SiteSurvey
