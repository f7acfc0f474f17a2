import SiteSurvey.Volume.Basic
import SiteSurvey.Volume.Fault

set_option autoImplicit false

namespace SiteSurvey.Volume

structure Spot where
  place : Location
  entry : Option Entry
  deriving Inhabited

def maxName : Nat := 255

def maxPath : Nat := 4095

def maxLinks : Nat := 40

/-- Follows names from a place, and links from the folder they stand in. Everything before the last name
has to be a folder. A link at the end is followed only if `through` says so. -/
def walk (v : Volume) (through : Bool) (links : Nat) (place : Location) :
    List String → Except VolumeFault Spot
  | [] => .ok { place, entry := v.get? place }
  | name :: rest =>
      match v.get? place with
      | none => .error .missing
      | some (.file _) | some (.plugin _) | some (.link _) => .error .notFolder
      | some .folder =>
          if name == ".." then walk v through links place.parent rest
          else if maxName < name.utf8ByteSize then .error .nameTooLong
          else
            let next := place.child (.plain name)
            match v.get? next with
            | none => if rest.isEmpty then .ok { place := next, entry := none } else .error .missing
            | some (.link target) =>
                if rest.isEmpty && !through then .ok { place := next, entry := some (.link target) }
                else
                  match links with
                  | 0 => .error .tooManyLinks
                  | fewer + 1 =>
                      let from_ := if target.anchor == .relative then place else .elsewhere
                      walk v through fewer from_ (target.names ++ rest)
            | some _ => walk v through links next rest
termination_by names => (links, names.length)

def lookup (v : Volume) (through : Bool) (p : Path) : Except VolumeFault Spot :=
  if p.names.any fun name => name.toList.contains '\x00' then .error .nullByte
  else if maxPath < p.toString.utf8ByteSize then .error .nameTooLong
  else walk v through maxLinks (if p.anchor == .relative then .start else .elsewhere) p.names

/-- Whether what a path leads to passes a test. A path that leads nowhere does not. -/
def holds (v : Volume) (test : Entry → Bool) (p : Path) : Except VolumeFault Bool :=
  match v.lookup true p with
  | .ok { entry := some e, .. } => .ok (test e)
  | .ok _ => .ok false
  | .error fault => if fault.meansAbsent then .ok false else .error fault

def isFolder (v : Volume) (p : Path) : Except VolumeFault Bool :=
  v.holds Entry.isFolder p

def isFile (v : Volume) (p : Path) : Except VolumeFault Bool :=
  v.holds Entry.isFile p

def isPresent (v : Volume) (p : Path) : Except VolumeFault Bool :=
  v.holds (fun _ => true) p

def find (v : Volume) (p : Path) : Except VolumeFault Spot :=
  match v.lookup true p with
  | .error fault => .error fault
  | .ok s => if s.entry.isSome then .ok s else .error .missing

def read (v : Volume) (p : Path) : Except VolumeFault ByteArray :=
  match v.lookup true p with
  | .error fault => .error fault
  | .ok { entry := some (.file bytes), .. } => .ok bytes
  | .ok { entry := some .folder, .. } => .error .isFolder
  | .ok { entry := some _, .. } => .ok ByteArray.empty
  | .ok { entry := none, .. } => .error .missing

theorem countP_lt_of_mem {α : Type} {p q : α → Bool} {as : List α} {a : α} (weaker : ∀ x, p x = true → q x = true)
    (inside : a ∈ as) (fails : p a = false) (holds : q a = true) : as.countP p < as.countP q := by
  obtain ⟨before, after, rfl⟩ := List.append_of_mem inside
  have first := List.countP_mono_left (l := before) fun x _ => weaker x
  have second := List.countP_mono_left (l := after) fun x _ => weaker x
  simp only [List.countP_append, List.countP_cons, fails, holds, if_true]
  simp only [Bool.false_eq_true, if_false]
  omega

/-- A link that is opened is one less to be opened. -/
theorem countP_opened_lt {v : Volume} {opened : List Location} {next : Location} {e : Entry}
    (found : v.get? next = some e) (named : next.names ≠ []) (unopened : next ∉ opened) :
    (v.entries.countP fun d => d.1 ∉ next :: opened) < v.entries.countP fun d => d.1 ∉ opened := by
  apply countP_lt_of_mem (a := (next, e))
  · intro d other
    simp only [List.mem_cons, not_or, decide_eq_true_eq] at other ⊢
    exact other.2
  · exact mem_of_get? found named
  · simp
  · simpa using unopened

/-- Follows names and all links on the way, whether or not anything stands there. `opened` holds the links that
are being followed. One of them that is met again would lead around forever: it stops the walk, and what
was still to come is followed without regard to links. -/
def resolveFrom (v : Volume) (opened : List Location) (place : Location) :
    List String → Except Location Location
  | [] => .ok place
  | name :: rest =>
      if name == ".." then resolveFrom v opened place.parent rest
      else
        match _found : v.get? (place.child (.plain name)) with
        | some (.link target) =>
            if _met : place.child (.plain name) ∈ opened then .error ((place.child (.plain name)).follow rest)
            else
              let from_ := if target.anchor == .relative then place else .elsewhere
              match resolveFrom v (place.child (.plain name) :: opened) from_ target.names with
              | .ok reached => resolveFrom v opened reached rest
              | .error stuck => .error (stuck.follow rest)
        | _ => resolveFrom v opened (place.child (.plain name)) rest
termination_by names => (v.entries.countP fun d => d.1 ∉ opened, names.length)
decreasing_by
  · exact Prod.Lex.right _ (Nat.lt_succ_self _)
  · exact Prod.Lex.left _ _ (countP_opened_lt _found (by simp [Location.child]) _met)
  · exact Prod.Lex.right _ (Nat.lt_succ_self _)
  · exact Prod.Lex.right _ (Nat.lt_succ_self _)

def resolve (v : Volume) (p : Path) : Except Location Location :=
  v.resolveFrom [] (if p.anchor == .relative then .start else .elsewhere) p.names

/-- The place of a path with all links on the way followed, as far as they lead somewhere. -/
def placeOf (v : Volume) (p : Path) : Location :=
  match v.resolve p with
  | .ok place | .error place => place

inductive Unplaced where
  | nullByte
  | linkLoop (place : Location)
  deriving DecidableEq, Repr

/-- The place of a path, unless it leads around forever. -/
def locate (v : Volume) (p : Path) : Except Unplaced Location :=
  if p.names.any fun name => name.toList.contains '\x00' then .error .nullByte
  else
    match v.resolve p with
    | .ok place => .ok place
    | .error place =>
        match v.walk true maxLinks { place with names := [] } (place.names.map Name.text) with
        | .error .tooManyLinks => .error (.linkLoop place)
        | _ => .ok place

end SiteSurvey.Volume
