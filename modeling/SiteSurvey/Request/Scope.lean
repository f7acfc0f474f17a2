import SiteSurvey.Text.Quoted

set_option autoImplicit false

namespace SiteSurvey.Request

inductive Encoding where
  | json
  | formData
  | urlencoded
  | unknown
  deriving DecidableEq, Repr, Inhabited

namespace Encoding

def name : Encoding → String
  | json => "json"
  | formData => "form-data"
  | urlencoded => "urlencoded"
  | unknown => "unknown"

def all : List Encoding :=
  [json, formData, urlencoded, unknown]

def ofName? (name : String) : Option Encoding :=
  all.find? fun e => e.name == name

theorem ofName?_name (e : Encoding) : ofName? e.name = some e := by
  cases e <;> decide

end Encoding

/-- The shapes of value that a body can be traced to. -/
inductive Shape where
  | objectLiteral
  | formAccumulator
  | urlAccumulator
  deriving DecidableEq, Repr, Inhabited

namespace Shape

def name : Shape → String
  | objectLiteral => "object_literal"
  | formAccumulator => "form_accumulator"
  | urlAccumulator => "url_accumulator"

def all : List Shape :=
  [objectLiteral, formAccumulator, urlAccumulator]

def ofName? (name : String) : Option Shape :=
  all.find? fun s => s.name == name

theorem ofName?_name (s : Shape) : ofName? s.name = some s := by
  cases s <;> decide

def invalid (name : String) : String :=
  Text.quotedString name ++ " is not a valid BindingKind"

/-- Keys can be added to the value after it was made. -/
def isAccumulator : Shape → Bool
  | objectLiteral => false
  | formAccumulator | urlAccumulator => true

def encoding : Shape → Encoding
  | objectLiteral => .json
  | formAccumulator => .formData
  | urlAccumulator => .urlencoded

end Shape

structure Binding where
  name : String
  shape : Shape
  keys : List Text
  deriving DecidableEq, Repr

/-- The names that hold a tracked value, each with its binding, in the order in which they came to. -/
structure Scope where
  entries : List (String × Binding)
  deriving DecidableEq, Repr

namespace Scope

def empty : Scope := ⟨[]⟩

def bindings (s : Scope) : List Binding :=
  s.entries.map (·.2)

def get? (s : Scope) (name : String) : Option Binding :=
  s.entries.lookup name

def contains (s : Scope) (name : String) : Bool :=
  (s.get? name).isSome

def size (s : Scope) : Nat :=
  s.entries.length

/-- Replaces what is entered under a name in its place, or adds it at the end. -/
def put (name : String) (new : Binding) : List (String × Binding) → List (String × Binding)
  | [] => [(name, new)]
  | e :: rest => if e.1 == name then (name, new) :: rest else e :: put name new rest

def bind (s : Scope) (name : String) (shape : Shape) (keys : List Text) : Scope :=
  ⟨put name { name, shape, keys } s.entries⟩

def unbind (s : Scope) (name : String) : Scope :=
  ⟨s.entries.filter fun e => e.1 != name⟩

/-- The keys after one more; with `unique` a key that is there already is not added again. -/
def addKey (unique : Bool) (keys : List Text) (key : Text) : List Text :=
  if unique && keys.contains key then keys else keys ++ [key]

/-- Adds a key to the accumulator that a name holds, and says whether the name holds one. -/
def append (s : Scope) (name : String) (key : Text) (unique : Bool) : Scope × Bool :=
  match s.get? name with
  | none => (s, false)
  | some b =>
      if b.shape.isAccumulator then
        (⟨put name { b with keys := addKey unique b.keys key } s.entries⟩, true)
      else (s, false)

end Scope

end SiteSurvey.Request
