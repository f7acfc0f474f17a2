import SiteSurvey.Detector.Plugin
import SiteSurvey.Path

set_option autoImplicit false

namespace SiteSurvey

namespace Volume

/-- A name in a folder. A temporary file gets a name that no one can foresee, so it is known by the file
it is to become and by a number of its own. -/
inductive Name where
  | plain (text : String)
  | temporary (stem : String) (serial : Nat)
  deriving DecidableEq, Repr, Inhabited

/-- The text of a name, with a word in place of what no one can foresee. -/
def Name.text : Name → String
  | plain text => text
  | temporary stem _ => "." ++ stem ++ ".TMP.tmp"

/-- A place on a volume, seen from the folder that everything starts from: a number of folders up, and
from there down by names. -/
structure Location where
  up : Nat
  names : List Name
  deriving DecidableEq, Repr, Inhabited

namespace Location

def start : Location :=
  { up := 0, names := [] }

/-- The root, further up than a relative path leads. -/
def elsewhere : Location :=
  { up := 4096, names := [] }

def child (l : Location) (n : Name) : Location :=
  { l with names := l.names ++ [n] }

def parent (l : Location) : Location :=
  if l.names.isEmpty then if l = elsewhere then l else { l with up := l.up + 1 }
  else { l with names := l.names.dropLast }

/-- The names from one place down to another. -/
def below? (l base : Location) : Option (List Name) :=
  if base.up == l.up && base.names.isPrefixOf l.names then some (l.names.drop base.names.length)
  else none

/-- One step along a path, without regard to links. -/
def step (l : Location) (name : String) : Location :=
  if name = ".." then l.parent else l.child (.plain name)

def follow (l : Location) (names : List String) : Location :=
  names.foldl step l

def text (l : Location) : String :=
  Path.joinNames (l.names.map Name.text)

end Location

inductive Entry where
  | file (bytes : ByteArray)
  | plugin (p : Detector.Plugin)
  | folder
  | link (target : Path)
  deriving Inhabited

def Entry.isFolder : Entry → Bool
  | folder => true
  | _ => false

def Entry.isFile : Entry → Bool
  | file _ | plugin _ => true
  | _ => false

def Entry.isLink : Entry → Bool
  | link _ => true
  | _ => false

/-- What a file holds. A plugin counts as an empty one. -/
def Entry.bytes : Entry → ByteArray
  | file bytes => bytes
  | _ => ByteArray.empty

end Volume

open Volume in
/-- Files and folders. Each place has at most one entry, and `serial` counts the temporary files. -/
structure Volume where
  entries : List (Location × Entry)
  serial : Nat
  deriving Inhabited

namespace Volume

def empty : Volume :=
  { entries := [], serial := 0 }

def get? (v : Volume) (l : Location) : Option Entry :=
  if l.names.isEmpty then some .folder else (v.entries.find? fun e => e.1 = l).map (·.2)

def putEntry (l : Location) (e : Entry) : List (Location × Entry) → List (Location × Entry)
  | [] => [(l, e)]
  | (k, d) :: rest => if k = l then (k, e) :: rest else (k, d) :: putEntry l e rest

def put (v : Volume) (l : Location) (e : Entry) : Volume :=
  { v with entries := putEntry l e v.entries }

def erase (v : Volume) (l : Location) : Volume :=
  { v with entries := v.entries.filter fun e => e.1 ≠ l }

def children (v : Volume) (l : Location) : List (Name × Entry) :=
  v.entries.filterMap fun (k, e) =>
    match k.below? l with
    | some [n] => some (n, e)
    | _ => none

theorem mem_of_get? {v : Volume} {l : Location} {e : Entry} (found : v.get? l = some e) (named : l.names ≠ []) :
    (l, e) ∈ v.entries := by
  simp only [get?, List.isEmpty_iff, named, if_false, Option.map_eq_some_iff] at found
  obtain ⟨⟨k, d⟩, first, rfl⟩ := found
  have same : k = l := by simpa using List.find?_some first
  subst same
  exact List.mem_of_find?_eq_some first

theorem find_putEntry (l k : Location) (e : Entry) (entries : List (Location × Entry)) :
    ((putEntry l e entries).find? fun d => d.1 = k).map (·.2) =
      if k = l then some e else (entries.find? fun d => d.1 = k).map (·.2) := by
  induction entries with
  | nil =>
      by_cases same : k = l
      · simp [putEntry, same]
      · simp [putEntry, same, Ne.symm same]
  | cons d rest ih =>
      obtain ⟨j, f⟩ := d
      by_cases atHead : j = l
      · subst atHead
        by_cases same : k = j
        · simp [putEntry, same]
        · simp [putEntry, same, Ne.symm same]
      · by_cases found : j = k
        · subst found
          simp [putEntry, atHead]
        · simp only [putEntry, if_neg atHead]
          simpa [found] using ih

theorem get?_put (v : Volume) (l k : Location) (e : Entry) (named : k.names ≠ []) :
    (v.put l e).get? k = if k = l then some e else v.get? k := by
  have notEmpty : k.names.isEmpty = false := by
    cases h : k.names with
    | nil => exact absurd h named
    | cons a as => rfl
  simp only [get?, put, notEmpty]
  simpa using find_putEntry l k e v.entries

end Volume

end SiteSurvey
