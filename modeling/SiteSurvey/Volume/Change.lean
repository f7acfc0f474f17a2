import SiteSurvey.Volume.Lookup

set_option autoImplicit false

namespace SiteSurvey.Volume

/-- A change to a volume. What was done before a trouble stays done. -/
abbrev Change := ExceptT Trouble (StateM Volume)

def fail {α : Type} (fault : VolumeFault) (path : String) : Change α :=
  throw (.at_ fault path)

def ask {α : Type} (p : Path) (question : Volume → Except VolumeFault α) : Change α := do
  match question (← get) with
  | .ok a => return a
  | .error fault => fail fault p.toString

/-- The steps of a write at which the system underneath may refuse its service. A folder is tried once, and
once more when those above it are there. -/
inductive Step where
  | makeFolder (p : Path) (again : Bool)
  | seeFolder (p : Path) (again : Bool)
  | makeTemporary
  | fill
  | move
  | discard
  deriving DecidableEq, Repr

/-- What the system underneath does to a write: the faults with which it refuses steps, and how many bytes of
a text it takes before it refuses the rest. -/
structure System where
  refusal : Step → Option VolumeFault
  taken : Nat

def System.willing : System :=
  { refusal := fun _ => none, taken := 0 }

def heed (refusal : Option VolumeFault) (path : String) : Change Unit :=
  match refusal with
  | none => return ()
  | some fault => fail fault path

def makeFolder (p : Path) (refusal : Option VolumeFault := none) : Change Unit := do
  heed refusal p.toString
  let s ← ask p fun v => v.lookup false p
  match s.entry with
  | some _ => fail .present p.toString
  | none => modify fun v => v.put s.place .folder

def ensureFolder (p : Path) (again : Bool := false) (system : System := .willing) : Change Unit := do
  try makeFolder p (system.refusal (.makeFolder p again))
  catch t =>
    if t.fault = .missing then throw t
    else
      heed (system.refusal (.seeFolder p again)) p.toString
      if !(← ask p fun v => v.isFolder p) then throw t

def ensureFolders (p : Path) (system : System := .willing) : Change Unit :=
  tryCatch (ensureFolder p false system) fun t =>
    if _above : t.fault = .missing ∧ p.names ≠ [] then do
      ensureFolders p.parent system
      ensureFolder p true system
    else throw t
termination_by p.names.length
decreasing_by
  have := List.length_pos_iff.mpr _above.2
  simp only [Path.parent, List.length_dropLast]
  omega

/-- Goes on by a name from the names so far, the last one first. A step up takes back the name before it. If
there is none, it is kept, but leads nowhere from a root. -/
def retrace (anchor : Anchor) (done : List String) (name : String) : List String :=
  if name == ".." then
    match done with
    | [] => if anchor == .relative then [".."] else []
    | last :: earlier => if last == ".." then ".." :: done else earlier
  else name :: done

/-- A path with each step up taken back, without regard to links. -/
def straight (p : Path) : Path :=
  { p with names := (p.names.foldl (retrace p.anchor) []).reverse }

/-- How many bytes the name of a temporary file has beyond the name that it stands for. -/
def temporaryExtra : Nat := 14

/-- Makes an empty file under a name of its own. The result is its place and the path to it. -/
def makeTemporary (folder : Path) (stem : String) (refusal : Option VolumeFault := none) :
    Change (Location × String) := do
  let v ← get
  let name := Name.temporary stem v.serial
  let text := (straight folder / name.text).toString
  heed refusal text
  if stem.toList.contains '\x00' then fail .nullByte text
  if maxName < stem.utf8ByteSize + temporaryExtra then fail .nameTooLong text
  match v.lookup true (straight folder) with
  | .error fault => fail fault text
  | .ok s =>
      match s.entry with
      | some .folder =>
          set { v.put (s.place.child name) (.file ByteArray.empty) with serial := v.serial + 1 }
          return (s.place.child name, text)
      | some _ => fail .notFolder text
      | none => fail .missing text

/-- Puts a text into a file. If the system refuses part of it, the file holds what was taken before. -/
def fill (place : Location) (bytes : ByteArray) (system : System := .willing) : Change Unit :=
  match system.refusal .fill with
  | none => modify fun v => v.put place (.file bytes)
  | some fault => do
      modify fun v => v.put place (.file (bytes.extract 0 system.taken))
      throw { fault, path := none, target := none }

def discard (v : Volume) (place : Location) (system : System := .willing) : Volume :=
  if (system.refusal .discard).isNone then v.erase place else v

/-- Moves an entry to the end of a path, in place of the file that stands there. -/
def move (source : Location) (sourceText : String) (p : Path) (refusal : Option VolumeFault := none) :
    Change Unit := do
  let stop (fault : VolumeFault) : Change Unit :=
    throw { fault, path := some sourceText, target := some p.toString }
  refusal.forM stop
  if p.names.isEmpty || p.name == ".." then stop .busy
  let v ← get
  match v.lookup false p with
  | .error fault => stop fault
  | .ok s =>
      match s.entry, v.get? source with
      | some .folder, _ => stop .isFolder
      | _, some e => set ((v.erase source).put s.place e)
      | _, none => stop .missing

end SiteSurvey.Volume
