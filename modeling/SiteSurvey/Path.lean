import SiteSurvey.Text.Basic

set_option autoImplicit false

namespace SiteSurvey

/-- Where a path starts: at the place it is used from, or at one of the two roots. -/
inductive Anchor where
  | relative
  | root
  | network
  deriving DecidableEq, Repr, Inhabited

def Anchor.text : Anchor → String
  | relative => ""
  | root => "/"
  | network => "//"

/-- A path as the names on it. Names are never empty and never a single dot. -/
structure Path where
  anchor : Anchor
  names : List String
  deriving DecidableEq, Repr, Inhabited

namespace Path

def splitSlashes : List Char → List (List Char)
  | [] => [[]]
  | c :: rest =>
      if c == '/' then [] :: splitSlashes rest
      else
        match splitSlashes rest with
        | [] => [[c]]
        | part :: parts => (c :: part) :: parts

def isName (part : List Char) : Bool :=
  !part.isEmpty && part != ['.']

def ofString (s : String) : Path :=
  let slashes := (s.toList.takeWhile (· == '/')).length
  { anchor := if slashes == 0 then .relative else if slashes == 2 then .network else .root,
    names := ((splitSlashes s.toList).filter isName).map String.ofList }

def joinNames : List String → String
  | [] => ""
  | [name] => name
  | name :: rest => name ++ "/" ++ joinNames rest

/-- The text of a path. The path without any name is a dot. -/
def toString (p : Path) : String :=
  if p.anchor == .relative && p.names.isEmpty then "." else p.anchor.text ++ joinNames p.names

instance : ToString Path := ⟨toString⟩

def join (p q : Path) : Path :=
  if q.anchor == .relative then { p with names := p.names ++ q.names } else q

instance : HDiv Path String Path := ⟨fun p s => p.join (ofString s)⟩

def name (p : Path) : String :=
  p.names.getLast?.getD ""

def parent (p : Path) : Path :=
  { p with names := p.names.dropLast }

/-- The ending of a name from its last dot on, unless the dot is its first or last character. -/
def suffixOf (name : String) : String :=
  let reversed := name.toList.reverse
  let ending := reversed.takeWhile (· != '.')
  if ending.length + 1 < reversed.length && !ending.isEmpty then
    String.ofList ('.' :: ending.reverse)
  else ""

def suffix (p : Path) : String :=
  suffixOf p.name

def stem (p : Path) : String :=
  String.ofList (p.name.toList.take (p.name.length - p.suffix.length))

def relativeTo? (p base : Path) : Option Path :=
  if base.anchor == p.anchor && base.names.isPrefixOf p.names then
    some { anchor := .relative, names := p.names.drop base.names.length }
  else none

/-- The order of paths: name by name, each by code points, a root before all names. -/
def sortKey (p : Path) : List String :=
  match p.anchor with
  | .relative => p.names
  | a => a.text :: p.names

def lessEqual : List String → List String → Bool
  | [], _ => true
  | _ :: _, [] => false
  | a :: as, b :: bs => if a == b then lessEqual as bs else a < b

def sorted (paths : List Path) : List Path :=
  paths.mergeSort fun p q => lessEqual p.sortKey q.sortKey

end Path

end SiteSurvey
