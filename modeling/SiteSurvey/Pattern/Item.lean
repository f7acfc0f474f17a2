set_option autoImplicit false

namespace SiteSurvey.Pattern

inductive Property where
  | digit
  | blank
  | word
  deriving DecidableEq, Repr, Inhabited

inductive Member where
  | point (n : Nat)
  | range (low high : Nat)
  | property (p : Property) (negated : Bool)
  deriving DecidableEq, Repr, Inhabited

inductive Place where
  | lineStart
  | lineFinish
  | textStart
  | textFinish
  | boundary
  | inner
  deriving DecidableEq, Repr, Inhabited

/-- How a pattern, or a part of it, is to be read and matched. -/
structure Flags where
  ignoreCase : Bool := false
  multiline : Bool := false
  dotAll : Bool := false
  verbose : Bool := false
  ascii : Bool := false
  unicode : Bool := false
  template : Bool := false
  deriving DecidableEq, Repr, Inhabited

namespace Flags

def none : Flags := {}

def union (f g : Flags) : Flags where
  ignoreCase := f.ignoreCase || g.ignoreCase
  multiline := f.multiline || g.multiline
  dotAll := f.dotAll || g.dotAll
  verbose := f.verbose || g.verbose
  ascii := f.ascii || g.ascii
  unicode := f.unicode || g.unicode
  template := f.template || g.template

def without (f g : Flags) : Flags where
  ignoreCase := f.ignoreCase && !g.ignoreCase
  multiline := f.multiline && !g.multiline
  dotAll := f.dotAll && !g.dotAll
  verbose := f.verbose && !g.verbose
  ascii := f.ascii && !g.ascii
  unicode := f.unicode && !g.unicode
  template := f.template && !g.template

def meets (f g : Flags) : Bool :=
  (f.ignoreCase && g.ignoreCase) || (f.multiline && g.multiline) || (f.dotAll && g.dotAll) ||
    (f.verbose && g.verbose) || (f.ascii && g.ascii) || (f.unicode && g.unicode) ||
    (f.template && g.template)

/-- The flag of a letter. The letter for locales is not among them. -/
def ofLetter? (c : Char) : Option Flags :=
  match c with
  | 'i' => some { ignoreCase := true }
  | 'm' => some { multiline := true }
  | 's' => some { dotAll := true }
  | 'x' => some { verbose := true }
  | 'a' => some { ascii := true }
  | 'u' => some { unicode := true }
  | 't' => some { template := true }
  | _ => Option.none

def ofLetters (cs : List Char) : Flags :=
  cs.foldl (fun f c => f.union ((ofLetter? c).getD none)) none

/-- The flags inside a part that turns some on and some off. A choice of characters replaces the
choice made outside. -/
def inside (f on off : Flags) : Flags :=
  let base := if on.ascii || on.unicode then { f with ascii := false, unicode := false } else f
  (base.union on).without off

end Flags

/-- What a repetition prefers: as much as possible, as little as possible, or as much as possible
without giving any of it back. -/
inductive Greed where
  | greedy
  | lazy
  | possessive
  deriving DecidableEq, Repr, Inhabited

inductive Item where
  | empty
  | sequence (first rest : Item)
  | either (first second : Item)
  | literal (n : Nat)
  | except (n : Nat)
  | any
  | set (negated : Bool) (members : List Member)
  | place (p : Place)
  | group (number : Option Nat) (on off : Flags) (body : Item)
  | loop (greed : Greed) (least : Nat) (most : Option Nat) (body : Item)
  | atomic (body : Item)
  | look (ahead negated : Bool) (body : Item)
  | same (group : Nat)
  | whether (group : Nat) (yes no : Item)
  deriving DecidableEq, Repr, Inhabited

namespace Item

def ofList : List Item → Item
  | [] => empty
  | [i] => i
  | i :: rest => sequence i (ofList rest)

def parts : Item → List Item
  | empty => []
  | sequence i rest => i :: parts rest
  | i => [i]

/-- A group that neither captures nor changes a flag is the same as its body. -/
def unpacked : Item → List Item
  | group none on off body => if on = .none ∧ off = .none then body.parts else [group none on off body]
  | i => [i]

/-- Items without a pattern inside, which can be told apart at a glance. -/
def isSimple : Item → Bool
  | literal _ | except _ | any | set _ _ | place _ | same _ => true
  | _ => false

def alternatives : List Item → Item
  | [] => empty
  | [i] => i
  | i :: rest => either i (alternatives rest)

def commonStart? : List (List Item) → Option Item
  | [] => none
  | [] :: _ => none
  | (i :: _) :: rest =>
      if i.isSimple && rest.all fun alternative => alternative.head? == some i then some i else none

/-- Takes the items that all alternatives start with out of them. -/
def factor : Nat → List (List Item) → List Item × List (List Item)
  | 0, alternatives => ([], alternatives)
  | fuel + 1, alternatives =>
      match commonStart? alternatives with
      | none => ([], alternatives)
      | some i =>
          let (shared, rest) := factor fuel (alternatives.map (List.drop 1))
          (i :: shared, rest)

def members? : List Item → Option (List Member)
  | [literal n] => some [.point n]
  | [set false members] => some members
  | _ => none

def addMember (known : List Member) (m : Member) : List Member :=
  if known.contains m then known else known ++ [m]

/-- The alternatives as one item or several: shared starts are taken out, and alternatives of one
character each are a set. -/
def branch (alternatives : List (List Item)) : List Item :=
  match alternatives with
  | [only] => only
  | _ =>
      let (shared, rest) := factor ((alternatives.map List.length).foldl max 0) alternatives
      match rest.mapM members? with
      | some sets => shared ++ [set false (sets.flatten.foldl addMember [])]
      | none => shared ++ [Item.alternatives (rest.map ofList)]

end Item

end SiteSurvey.Pattern
