import SiteSurvey.Pattern.Flaw
import SiteSurvey.Pattern.Width

set_option autoImplicit false

namespace SiteSurvey.Pattern

/-- What a pattern is read in: single characters, or a backslash with the character after it. -/
inductive Token where
  | plain (c : Char)
  | escape (c : Char)
  deriving DecidableEq, Repr

def Token.chars : Token → List Char
  | plain c => [c]
  | escape c => ['\\', c]

def Token.text (t : Token) : String :=
  String.ofList t.chars

structure Cursor where
  next : Option Token
  rest : List Char
  index : Nat

/-- What is known after a part of a pattern has been read: the flags for all of it, the groups by
name and by number, the groups there were where the outermost lookbehind began, and the numbers that
conditions refer to with the places where they do. -/
structure Draft where
  cursor : Cursor
  flags : Flags
  names : List (String × Nat)
  widths : List (Option Width)
  lookbehind : Option Nat
  conditions : List (Nat × Nat)

abbrev Reading := StateT Draft (Except Problem)

namespace Reading

def cursor : Reading Cursor := do
  return (← get).cursor

def tell : Reading Nat := do
  let c ← cursor
  return c.index - (match c.next with
    | some t => t.chars.length
    | none => 0)

def refuse {α : Type} (p : Problem) : Reading α :=
  fun _ => .error p

def fail {α : Type} (flaw : Flaw) (back : Nat) : Reading α := do
  refuse { flaw, position := some ((← tell) - back) }

def step (c : Cursor) : Except Problem Cursor :=
  match c.rest with
  | [] => .ok { c with next := none }
  | ['\\'] => .error { flaw := .escapeAtEnd, position := some c.index }
  | '\\' :: d :: rest => .ok { next := some (.escape d), rest, index := c.index + 2 }
  | d :: rest => .ok { next := some (.plain d), rest, index := c.index + 1 }

def advance : Reading Unit := fun d =>
  match step d.cursor with
  | .ok c => .ok ((), { d with cursor := c })
  | .error p => .error p

def peek : Reading (Option Token) := do
  return (← cursor).next

def take : Reading (Option Token) := do
  let t ← peek
  advance
  return t

def skip (c : Char) : Reading Bool := do
  if (← peek) == some (.plain c) then
    advance
    return true
  else return false

def bound : Reading Nat := do
  return (← cursor).rest.length + 2

def takeSome (kind : Char → Bool) : Nat → Reading (List Char)
  | 0 => return []
  | n + 1 => do
      match ← peek with
      | some (.plain c) =>
          if kind c then
            advance
            return c :: (← takeSome kind n)
          else return []
      | _ => return []

def takeAll (kind : Char → Bool) : Reading (List Char) := do
  takeSome kind (← bound)

def takeUntilFrom (terminator : Char) (what : String) : Nat → List Char → Reading (List Char)
  | 0, name => return name
  | fuel + 1, name => do
      match ← take with
      | none =>
          if name.isEmpty then fail (.missingName what) 0
          else fail (.unterminatedName terminator) name.length
      | some t =>
          if t == .plain terminator then
            if name.isEmpty then fail (.missingName what) 1 else return name
          else takeUntilFrom terminator what fuel (name ++ t.chars)

def takeUntil (terminator : Char) (what : String) : Reading (List Char) := do
  takeUntilFrom terminator what (← bound) []

def skipPast (c : Char) : Nat → Reading Bool
  | 0 => return false
  | fuel + 1 => do
      match ← take with
      | none => return false
      | some t => if t == .plain c then return true else skipPast c fuel

def groups : Reading Nat := do
  return (← get).widths.length

def isClosed (number : Nat) : Reading Bool := do
  match (← get).widths[number]? with
  | some (some _) => return true
  | _ => return false

/-- Inside a lookbehind only groups from before it can be referred to. -/
def checkLookbehind (number : Nat) : Reading Unit := do
  match (← get).lookbehind with
  | none => return
  | some before =>
      if !(← isClosed number) then fail .openGroup 0
      else if before ≤ number then fail .groupInLookbehind 0

def openGroup (name : Option String) : Reading Nat := do
  let d ← get
  let number := d.widths.length
  match name with
  | none => set { d with widths := d.widths ++ [none] }
  | some name =>
      match d.names.find? fun n => n.1 == name with
      | some (_, earlier) => fail (.groupNameTwice name number earlier) (name.length + 1)
      | none =>
          set { d with widths := d.widths ++ [none], names := (name, number) :: d.names }
  return number

def groupWidth (d : Draft) (number : Nat) : Width :=
  ((d.widths[number]?).getD none).getD .zero

def closeGroup (number : Nat) (body : Item) : Reading Unit :=
  modify fun d => { d with widths := d.widths.set number (some (body.width (groupWidth d))) }

end Reading

end SiteSurvey.Pattern
