import SiteSurvey.Script.Parser

set_option autoImplicit false

namespace SiteSurvey.Script

/-- What is asked of a reader of expressions. `relations` lets `in` be an operator, which it is not
in the head of a `for`; `returns` lets an arrow function carry a return type, which it must not
where the colon belongs to a conditional. -/
structure Mode where
  relations : Bool
  returns : Bool
  deriving DecidableEq, Repr, Inhabited

def Mode.plain : Mode := { relations := true, returns := true }

/-- The constructs of the grammar that contain each other. Each rule of the grammar is a parser
that is handed a reader for all of them. -/
inductive Goal where
  | statement
  | block
  | expression (mode : Mode)
  | binary (level : Nat) (mode : Mode)
  | operand
  | target
  | binding
  | type
  | markup
  deriving DecidableEq, Repr, Inhabited

/-- A reader for the constructs inside the one at hand. -/
abbrev Inner := Goal → Parser Node

namespace Grammar

open SiteSurvey.Script.Parser

/-- Words that are never names of variables. -/
def reserved : List String :=
  ["break", "case", "catch", "class", "const", "continue", "debugger", "default", "delete", "do",
   "else", "extends", "false", "finally", "for", "function", "if", "import", "in", "instanceof",
   "new", "null", "return", "super", "switch", "this", "throw", "true", "try", "typeof", "var",
   "void", "while", "with"]

def nameAs (kind : Kind) : Parser Node := do
  let c ← here
  guard (c.shape == .word && !reserved.contains c.head && c.head != "export")
  take (c.pos + c.head.length)
  leaf kind c.pos (c.pos + c.head.length)

def identifier : Parser Node :=
  nameAs .identifier

def anyNameAs (kind : Kind) : Parser Node := do
  let c ← here
  guard (c.shape == .word)
  take (c.pos + c.head.length)
  leaf kind c.pos (c.pos + c.head.length)

def privateName : Parser Node := do
  let c ← here
  let s ← source
  guard (s.is c.pos '#')
  match s.nameEnd (c.pos + 1) with
  | some stop =>
      take stop
      leaf .privatePropertyIdentifier c.pos stop
  | none => stop

def wordAs (kind : Kind) (w : String) : Parser Node := do
  let start ← pos
  word w
  leaf kind start (start + w.length)

def expression (inner : Inner) : Parser Node :=
  inner (.expression .plain)

/-- Expressions with commas between them; two or more make a sequence. -/
def sequence (inner : Inner) (mode : Mode) : Parser Node := do
  let start ← pos
  let items ← commaSep (inner (.expression mode))
  match items with
  | [one] => pure one
  | _ => close .sequenceExpression start items

def expressions (inner : Inner) : Parser Node :=
  sequence inner .plain

def initializer (inner : Inner) (mode : Mode) : Parser (List Node) := do
  mark "="
  let value ← inner (.expression mode)
  pure [value.asRole .value]

end Grammar

end SiteSurvey.Script
