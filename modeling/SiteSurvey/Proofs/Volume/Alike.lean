import SiteSurvey.Proofs.Volume.Lookup

set_option autoImplicit false

namespace SiteSurvey.Volume

/-- Two volumes that differ at most at some places, at which no path goes on in either of them. -/
structure Alike (apart : Location → Prop) (v v' : Volume) : Prop where
  same : ∀ l, l.IsPlain → ¬apart l → v'.get? l = v.get? l
  solid : ∀ l, apart l → Solid v l
  solid' : ∀ l, apart l → Solid v' l

def VolumeFault.IsStop (fault : VolumeFault) : Prop :=
  fault = .missing ∨ fault = .notFolder

/-- How walks on two volumes compare that are alike. -/
inductive Matches (apart : Location → Prop) : Except VolumeFault Spot → Except VolumeFault Spot → Prop where
  | same (r : Except VolumeFault Spot) : Matches apart r r
  | ends {s s' : Spot} (place : s.place = s'.place) (there : apart s.place) : Matches apart (.ok s) (.ok s')
  | stops {fault fault' : VolumeFault} (stop : VolumeFault.IsStop fault) (stop' : VolumeFault.IsStop fault') :
      Matches apart (.error fault) (.error fault')

section Walks

variable {v v' : Volume} {through : Bool} {links : Nat} {place : Location} {name : String} {rest : List String}

theorem walk_of_not_folder (other : v.get? place ≠ some .folder) :
    ∃ fault, VolumeFault.IsStop fault ∧ v.walk through links place (name :: rest) = .error fault := by
  cases entry : v.get? place with
  | none => exact ⟨.missing, .inl rfl, walk_missing entry⟩
  | some e =>
    have solid := isFolder_eq_false entry other
    exact ⟨.notFolder, .inr rfl, walk_blocked e entry solid⟩

/-- A walk that comes to a solid place ends there or fails there. -/
theorem walk_to_solid (through : Bool) (links : Nat) (rest : List String) (folder : v.get? place = some .folder)
    (proper : name ≠ "..") (fits : name.utf8ByteSize ≤ maxName) (solid : Solid v (place.child (.plain name))) :
    if rest = [] then
      v.walk through links place (name :: rest) =
        .ok { place := place.child (.plain name), entry := v.get? (place.child (.plain name)) }
    else ∃ fault, VolumeFault.IsStop fault ∧ v.walk through links place (name :: rest) = .error fault := by
  cases entry : v.get? (place.child (.plain name)) with
  | none =>
    rw [walk_absent folder proper fits entry]
    cases rest with
    | nil => simp
    | cons _ _ => simp [VolumeFault.IsStop]
  | some e =>
    have noLink : e.isLink = false := (Bool.or_eq_false_iff.mp (solid e entry)).2
    rw [walk_down folder proper fits entry noLink]
    cases rest with
    | nil => simp [walk_nil, entry]
    | cons _ _ => simpa using walk_of_not_folder solid.not_folder

theorem Matches.of_stops {apart : Location → Prop} {r r' : Except VolumeFault Spot}
    (stop : ∃ fault, VolumeFault.IsStop fault ∧ r = .error fault)
    (stop' : ∃ fault, VolumeFault.IsStop fault ∧ r' = .error fault) : Matches apart r r' := by
  obtain ⟨fault, stop, rfl⟩ := stop
  obtain ⟨fault', stop', rfl⟩ := stop'
  exact .stops stop stop'

theorem Alike.folder {apart : Location → Prop} (alike : Alike apart v v') (plain : place.IsPlain)
    (folder : v.get? place = some .folder) : v'.get? place = some .folder := by
  rw [alike.same place plain fun there => (alike.solid place there).not_folder folder]
  exact folder

theorem matches_to_solid {apart : Location → Prop} (alike : Alike apart v v')
    (folder : v.get? place = some .folder) (folder' : v'.get? place = some .folder) (proper : name ≠ "..")
    (fits : name.utf8ByteSize ≤ maxName) (there : apart (place.child (.plain name))) :
    Matches apart (v.walk through links place (name :: rest)) (v'.walk through links place (name :: rest)) := by
  have first := walk_to_solid through links rest folder proper fits (alike.solid _ there)
  have second := walk_to_solid through links rest folder' proper fits (alike.solid' _ there)
  by_cases last : rest = []
  · rw [if_pos last] at first second
    rw [first, second]
    exact .ends rfl there
  · rw [if_neg last] at first second
    exact .of_stops first second

/-- Walks on volumes that are alike come to the same, unless they come to a place where the volumes
differ. -/
theorem walk_matches {apart : Location → Prop} (alike : Alike apart v v') {names : List String}
    (plain : place.IsPlain) :
    Matches apart (v.walk through links place names) (v'.walk through links place names) := by
  induction links, place, names using walk_induction v through with
  | nil links place =>
    rw [walk_nil, walk_nil]
    by_cases there : apart place
    · exact .ends rfl there
    · rw [alike.same place plain there]
      exact .same _
  | blocked links place name rest other =>
    by_cases there : apart place
    · exact .of_stops (walk_of_not_folder other) (walk_of_not_folder (alike.solid' place there).not_folder)
    · refine .of_stops (walk_of_not_folder other) (walk_of_not_folder ?_)
      rw [alike.same place plain there]
      exact other
  | up links place rest folder ih =>
    rw [walk_up folder, walk_up (alike.folder plain folder)]
    exact ih plain.parent
  | tooLong links place name rest folder proper long =>
    rw [walk_tooLong folder proper long, walk_tooLong (alike.folder plain folder) proper long]
    exact .same _
  | absent links place name rest folder proper fits none =>
    have folder' := alike.folder plain folder
    by_cases there : apart (place.child (.plain name))
    · exact matches_to_solid alike folder folder' proper fits there
    · have none' := (alike.same _ (plain.child name) there).trans none
      rw [walk_absent folder proper fits none, walk_absent folder' proper fits none']
      exact .same _
  | linkEnd links place name target folder proper fits link last =>
    -- What is apart is solid and so no link, which leaves both walks with the same links to follow.
    subst last
    have apart' := fun there => (alike.solid _ there).not_link target link
    have link' := (alike.same _ (plain.child name) apart').trans link
    rw [walk_linkEnd folder proper fits link, walk_linkEnd (alike.folder plain folder) proper fits link']
    exact .same _
  | noLinks place name rest target folder proper fits link goes =>
    have apart' := fun there => (alike.solid _ there).not_link target link
    have link' := (alike.same _ (plain.child name) apart').trans link
    rw [walk_noLinks folder proper fits link goes, walk_noLinks (alike.folder plain folder) proper fits link' goes]
    exact .same _
  | follow links place name rest target folder proper fits link goes ih =>
    have apart' := fun there => (alike.solid _ there).not_link target link
    have link' := (alike.same _ (plain.child name) apart').trans link
    rw [walk_link folder proper fits link goes, walk_link (alike.folder plain folder) proper fits link' goes]
    exact ih (isPlain_aim plain target)
  | down links place name rest e folder proper fits entry solid ih =>
    have folder' := alike.folder plain folder
    by_cases there : apart (place.child (.plain name))
    · exact matches_to_solid alike folder folder' proper fits there
    · have entry' := (alike.same _ (plain.child name) there).trans entry
      rw [walk_down folder proper fits entry solid, walk_down folder' proper fits entry' solid]
      exact ih (plain.child name)

theorem lookup_matches {apart : Location → Prop} (alike : Alike apart v v') (through : Bool) (p : Path) :
    Matches apart (v.lookup through p) (v'.lookup through p) := by
  unfold lookup
  split
  · exact .same _
  · split
    · exact .same _
    · exact walk_matches alike (isPlain_origin p)

theorem lookup_of_same {through : Bool} {p : Path} {s : Spot} (same : ∀ l, l.IsPlain → v'.get? l = v.get? l)
    (found : v'.lookup through p = .ok s) : v.lookup through p = .ok s := by
  have alike : Alike (fun _ => False) v v' :=
    ⟨fun l plain _ => same l plain, fun _ none => none.elim, fun _ none => none.elim⟩
  have compared := lookup_matches alike through p
  rw [found] at compared
  generalize v.lookup through p = r at compared ⊢
  cases compared with
  | same => rfl
  | ends _ none => exact none.elim

theorem isFolder_of_solid {p : Path} {s : Spot} (found : v.lookup true p = .ok s) (solid : Solid v s.place) :
    v.isFolder p = .ok false := by
  have entry := (lookup_eq_ok_iff.mp found).2.1
  rw [isFolder, holds, found]
  obtain ⟨place, e⟩ := s
  cases e with
  | none => rfl
  | some e =>
    have other : e.isFolder = false := (Bool.or_eq_false_iff.mp (solid e entry.symm)).1
    simp only [other]

theorem isFolder_of_stop {p : Path} {fault : VolumeFault} (stop : VolumeFault.IsStop fault)
    (failed : v.lookup true p = .error fault) : v.isFolder p = .ok false := by
  rw [isFolder, holds, failed]
  rcases stop with rfl | rfl <;> rfl

theorem isFolder_alike {apart : Location → Prop} (alike : Alike apart v v') (p : Path) :
    v'.isFolder p = v.isFolder p := by
  have compared := lookup_matches alike true p
  generalize found : v.lookup true p = r at compared
  generalize found' : v'.lookup true p = r' at compared
  cases compared with
  | same => rw [isFolder, isFolder, holds, holds, found, found']
  | ends place there =>
    rw [isFolder_of_solid found (alike.solid _ there), isFolder_of_solid found']
    rw [← place]
    exact alike.solid' _ there
  | stops stop stop' => rw [isFolder_of_stop stop found, isFolder_of_stop stop' found']

end Walks

end SiteSurvey.Volume
