import SiteSurvey.Text.Utf8
import SiteSurvey.World

set_option autoImplicit false

namespace SiteSurvey

structure Source where
  path : Path
  text : Array Char
  displayName : String
  deriving Inhabited

namespace Source

def maxSize : Nat := 10 * 1024 * 1024

/-- Each end of a line as one character, whichever way it is written. -/
def unifyLines (text : Array Char) : Array Char :=
  (text.foldl (fun (acc : Array Char × Bool) c =>
    if c == '\r' then (acc.1.push '\n', true)
    else if c == '\n' && acc.2 then (acc.1, false)
    else (acc.1.push c, false)) (#[], false)).1

def placeOf? (v : Volume) (p : Path) : Except Failure (Option Volume.Location) :=
  match v.locate p with
  | .ok place => .ok (some place)
  | .error .nullByte => .ok none
  | .error (.linkLoop place) => .error (.linkLoop ("Symlink loop from " ++ Text.quotedString place.text))

/-- The name of a path as it is seen from a place, if its own place lies under it. -/
def nameFrom (p : Path) (base place : Volume.Location) : String :=
  match place.below? base with
  | some names => ({ anchor := .relative, names := names.map Volume.Name.text } : Path).toString
  | none => p.toString

def nameFor (v : Volume) (p : Path) : Option Path → Except Failure String
  | none => .ok p.toString
  | some root => do
      let some place ← placeOf? v p | return p.toString
      let some base ← placeOf? v root | return p.toString
      return nameFrom p base place

def unreadable (p : Path) (t : Trouble) : Failure :=
  if t.fault = .nullByte then .ofTrouble t
  else .unreadable ("Cannot read " ++ p.toString ++ ": " ++ t.message)

def read (p : Path) (root : Option Path) : Survey Source := do
  let s ← Survey.apply (unreadable p) (Volume.ask p fun v => v.find p)
  if maxSize < (s.entry.getD .folder).bytes.size then
    throw (.unreadable ("File too large (max 10MB): " ++ p.toString))
  let bytes ← Survey.apply (unreadable p) (Volume.ask p fun v => v.read p)
  let displayName ← Survey.ofExcept (nameFor (← Survey.volume) p root)
  return { path := p, text := unifyLines (Utf8.decodeLossy bytes), displayName }

/-- The path by which a search for some suffixes knows an entry below a place. Folders are not searched for. -/
def sought? (root : Path) (place : Volume.Location) (suffixes : List String) (d : Volume.Location × Volume.Entry) :
    Option Path :=
  match d.1.below? place with
  | none => none
  | some names =>
      let p : Path := { root with names := root.names ++ names.map Volume.Name.text }
      if !d.2.isFolder && suffixes.contains (Text.lowerString p.suffix) then some p else none

def isLong (p : Path) : Bool :=
  Volume.maxPath < p.toString.utf8ByteSize

/-- A search gets to see what stands in a folder. One that starts where it is used from gets to the folders
below by a dot and a slash. -/
def isListed (root folder : Path) : Bool :=
  let dotted := root.anchor == .relative && root.names.isEmpty && !folder.names.isEmpty
  folder.toString.utf8ByteSize + (if dotted then 2 else 0) ≤ Volume.maxPath

/-- The files below a place that have one of the given suffixes. Links are left out. -/
def below (v : Volume) (root : Path) (place : Volume.Location) (suffixes : List String) : List Path :=
  v.entries.filterMap fun d => (sought? root place suffixes d).filter fun p => d.2.isFile && !isLong p

/-- The entries that a search comes upon and cannot ask the system about. -/
def overlong (v : Volume) (root : Path) (place : Volume.Location) (suffixes : List String) : List Path :=
  v.entries.filterMap fun d => (sought? root place suffixes d).filter fun p => isLong p && isListed root p.parent

def tooLong (p : Path) : Failure :=
  .ofTrouble (.at_ .nameTooLong p.toString)

/-- What a search below a place comes to. What stands in a folder is come upon before what stands further down. -/
def search (v : Volume) (root : Path) (place : Volume.Location) (suffixes : List String) :
    Except Failure (List Path) :=
  match (overlong v root place suffixes).mergeSort fun p q => p.names.length ≤ q.names.length with
  | p :: _ => .error (tooLong p)
  | [] => .ok (Path.sorted (below v root place suffixes))

def collect (root : Path) (extensions : List String) : Survey (List Path) := do
  if !(← Survey.ask root fun v => v.isFolder root) then
    throw (.invalidInput ("Source directory not found: " ++ root.toString))
  let s ← Survey.ask root fun v => v.find root
  Survey.ofExcept (search (← Survey.volume) root s.place (extensions.map Text.lowerString))

end Source

end SiteSurvey
