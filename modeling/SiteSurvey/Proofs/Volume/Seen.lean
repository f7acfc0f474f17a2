import SiteSurvey.Proofs.Volume.Alike
import SiteSurvey.Proofs.Volume.Sound

set_option autoImplicit false

namespace SiteSurvey.Volume

/-- What a path leads to, if anything. -/
def seen (v : Volume) (through : Bool) (p : Path) : Option Entry :=
  match v.lookup through p with
  | .ok s => s.entry
  | .error _ => none

theorem seen_eq_some_iff {v : Volume} {through : Bool} {p : Path} {e : Entry} :
    v.seen through p = some e ↔ ∃ place, v.lookup through p = .ok ⟨place, some e⟩ := by
  unfold seen
  cases v.lookup through p with
  | error fault => simp
  | ok s =>
    obtain ⟨place, entry⟩ := s
    simp

theorem seen_eq_none_iff {v : Volume} {through : Bool} {p : Path} :
    v.seen through p = none ↔ ∀ place e, v.lookup through p ≠ .ok ⟨place, some e⟩ := by
  rw [Option.eq_none_iff_forall_ne_some]
  simp only [ne_eq, seen_eq_some_iff, not_exists]
  exact ⟨fun none place e => none e place, fun none e place => none place e⟩

/-- Whatever stands on a volume stands in a folder. -/
def Rooted (v : Volume) : Prop :=
  ∀ (l : Location) n, v.get? (l.child n) ≠ none → v.get? l = some .folder

theorem Sound.isRooted {v : Volume} (sound : Sound v) : Rooted v :=
  fun _ _ present => sound.folder_parent present

section Rooted

variable {v v' : Volume} {through : Bool} {links left : Nat} {place q : Location} {names : List String}

theorem get?_of_names_nil (l : Location) (empty : l.names = []) : v.get? l = some .folder := by
  simp [get?, empty]

theorem Rooted.parent (rooted : Rooted v) (present : v.get? place ≠ none) :
    v.get? place.parent = some .folder := by
  rcases List.eq_nil_or_concat place.names with empty | ⟨names, n, named⟩
  · refine get?_of_names_nil _ ?_
    unfold Location.parent
    split
    · split
      · exact empty
      · exact empty
    · simp [empty]
  · have whole : place = Location.child ⟨place.up, names⟩ n := by
      rw [Location.child, ← List.concat_eq_append, ← named]
    have above := rooted ⟨place.up, names⟩ n (whole ▸ present)
    simpa [Location.parent, named] using above

/-- A path ends at something other than a link, or it ends in a folder, at nothing or at a link that is not
followed. -/
theorem Leads.ends (rooted : Rooted v) (leads : Leads v through links place names left q)
    (start : ∃ e, v.get? place = some e ∧ e.isLink = false) :
    (∃ e, v.get? q = some e ∧ e.isLink = false) ∨
      ∃ r name, v.get? r = some .folder ∧ q = r.child (.plain name) ∧ (v.get? q = none ∨ through = false) := by
  induction leads with
  | here => exact .inl start
  | up folder _ ih => exact ih ⟨.folder, rooted.parent (by simp [folder]), rfl⟩
  | stop folder _ _ ends => exact .inr ⟨_, _, folder, rfl, ends.imp_right And.left⟩
  | @follow _ _ place _ _ _ target folder _ _ _ _ _ ih =>
    refine ih ⟨.folder, ?_, rfl⟩
    unfold aim
    split
    · exact folder
    · exact get?_of_names_nil _ rfl
  | down _ _ _ entry solid _ ih => exact ih ⟨_, entry, solid⟩

theorem get?_origin (p : Path) : v.get? (origin p) = some .folder := by
  refine get?_of_names_nil _ ?_
  unfold origin
  split <;> rfl

theorem start_origin (p : Path) : ∃ e, v.get? (origin p) = some e ∧ e.isLink = false :=
  ⟨.folder, get?_origin p, rfl⟩

theorem entry_of_start {p : Path} {s : Spot} (start : p.names = []) (found : v.lookup through p = .ok s) :
    s.entry = some .folder := by
  obtain ⟨_, entry, _, leads⟩ := lookup_eq_ok_iff.mp found
  rw [start] at leads
  rw [entry, leads.unique .here, get?_origin]

/-- A path that leads to nothing leads into a folder. -/
theorem folder_of_lookup_none {p : Path} (rooted : Rooted v) (found : v.lookup through p = .ok ⟨place, none⟩) :
    ∃ r name, v.get? r = some .folder ∧ place = r.child (.plain name) := by
  obtain ⟨_, absent, _, leads⟩ := lookup_eq_ok_iff.mp found
  rcases leads.ends rooted (start_origin p) with ⟨e, present, _⟩ | ⟨r, name, folder, rfl, _⟩
  · simp [present] at absent
  · exact ⟨r, name, folder, rfl⟩

theorem Rooted.put {p : Path} (rooted : Rooted v) (found : v.lookup through p = .ok ⟨place, none⟩) :
    Rooted (v.put place .folder) := by
  obtain ⟨r, name, folder, rfl⟩ := folder_of_lookup_none rooted found
  have keeps : ∀ l, v.get? l = some .folder → (v.put (r.child (.plain name)) .folder).get? l = some .folder := by
    intro l here
    by_cases same : l = r.child (.plain name)
    · rw [same, get?_put_self (by simp [Location.child])]
    · rw [get?_put_of_ne same, here]
  intro l n present
  by_cases same : l.child n = r.child (.plain name)
  · have above : l = r := by
      have up := congrArg Location.up same
      have names := congrArg Location.names same
      simp only [Location.child] at up names
      have equal := (List.append_inj' names rfl).1
      cases l
      cases r
      simp_all
    exact keeps l (above ▸ folder)
  · rw [get?_put_of_ne same] at present
    exact keeps l (rooted l n present)

end Rooted

section Seen

variable {v v' : Volume} {through : Bool} {p : Path}

/-- What a path leads to is still there if all entries are that a path can lead to. -/
theorem seen_of_kept {e : Entry} (rooted : Rooted v)
    (kept : ∀ l e, l.IsPlain → v.get? l = some e → v'.get? l = some e) (there : v.seen through p = some e) :
    v'.seen through p = some e := by
  obtain ⟨place, found⟩ := seen_eq_some_iff.mp there
  obtain ⟨askable, entry, left, leads⟩ := lookup_eq_ok_iff.mp found
  have stays := kept place e (leads.isPlain (isPlain_origin p)) entry.symm
  have within : Within v v' := fun l plain e here _ => kept l e plain here
  refine seen_eq_some_iff.mpr ⟨place, lookup_eq_ok_iff.mpr ⟨askable, stays.symm, left, ?_⟩⟩
  refine leads.within within (isPlain_origin p) ?_
  rintro rfl target link
  rw [stays] at link
  cases link
  -- A path that is followed to its end does not end at a link.
  rcases leads.ends rooted (start_origin p) with ⟨e, present, noLink⟩ | ⟨_, _, _, _, absent | stopped⟩
  · cases present.symm.trans entry.symm
    cases noLink
  · cases absent.symm.trans entry.symm
  · cases stopped

theorem seen_of_same (same : ∀ l, l.IsPlain → v'.get? l = v.get? l) : v'.seen through p = v.seen through p := by
  refine Option.ext fun e => ?_
  rw [seen_eq_some_iff, seen_eq_some_iff]
  constructor
  · rintro ⟨place, found⟩
    exact ⟨place, lookup_of_same same found⟩
  · rintro ⟨place, found⟩
    exact ⟨place, lookup_of_same (fun l plain => (same l plain).symm) found⟩

theorem seen_put {place : Location} {more : List String} (rooted : Rooted v)
    (found : v.lookup false p = .ok ⟨place, none⟩) (some_ : more ≠ []) (proper : ".." ∉ more) :
    (v.put place .folder).seen through { p with names := p.names ++ more } = none := by
  rw [seen_eq_none_iff]
  intro q e found'
  obtain ⟨askable, absent, left, leads⟩ := lookup_eq_ok_iff.mp found
  obtain ⟨_, present, left', leads'⟩ := lookup_eq_ok_iff.mp found'
  obtain ⟨middle, r, first, second⟩ := (leads_append some_).mp leads'
  have plain : place.IsPlain := leads.isPlain (isPlain_origin p)
  have named : place.names ≠ [] := names_ne_nil_of_get?_ne_folder (v := v) (by simp [← absent])
  have here : (v.put place .folder).get? place = some .folder := get?_put_self named
  -- The way to the folder is as before, and so it ends at the same place.
  obtain rfl : r = place := by
    have again := leads.within (grown_put plain absent.symm).within (isPlain_origin p) (by simp)
    exact first.unique (again.passing (by simp [here]))
  obtain ⟨name, rest, rfl⟩ := List.exists_cons_of_ne_nil some_
  have other : r.child (.plain name) ≠ r := fun same => by
    have sizes := congrArg (fun l => l.names.length) same
    simp [Location.child] at sizes
  have nothing : (v.put r .folder).get? (r.child (.plain name)) = none := by
    rw [get?_put_of_ne other]
    cases there : v.get? (r.child (.plain name)) with
    | none => rfl
    | some e => cases (rooted r (.plain name) (by simp [there])).symm.trans absent.symm
  cases second with
  | up _ _ => exact proper List.mem_cons_self
  | stop _ _ _ _ => cases nothing.symm.trans present.symm
  | follow _ _ _ link _ _ => cases nothing.symm.trans link
  | down _ _ _ entry _ _ => cases nothing.symm.trans entry

end Seen

/-- The steps up of a path all lie within what is there: from some folder on that is there, it only goes
down. -/
def Forward (v : Volume) (p : Path) : Prop :=
  ∃ xs ys, p.names = xs ++ ys ∧ ".." ∉ ys ∧ ∃ base, Folder v { p with names := xs } base

theorem present_of_folder {v : Volume} {p : Path} {xs ys : List String} {base place : Location} (more : ys ≠ [])
    (there : Folder v { p with names := xs ++ ys } base) :
    v.lookup false { p with names := xs } ≠ .ok ⟨place, none⟩ := by
  intro found
  obtain ⟨_, _, _, leads⟩ := lookup_eq_ok_iff.mp there
  obtain ⟨middle, r, first, second⟩ := (leads_append more).mp leads
  obtain ⟨_, absent, _, leads'⟩ := lookup_eq_ok_iff.mp found
  obtain rfl := first.unique (leads'.passing (by simp [← absent]))
  obtain ⟨y, rest, rfl⟩ := List.exists_cons_of_ne_nil more
  cases second.folder_of_cons.symm.trans absent.symm

section Making

variable {v : Volume} {through : Bool} {p : Path}

/-- A path that only goes down from a folder leads to nothing after a folder has been made on its way. -/
theorem seen_put_above {xs ys more : List String} {q : Path} {base place : Location} (rooted : Rooted v)
    (split : p.names = xs ++ ys) (proper : ".." ∉ ys) (there : Folder v { p with names := xs } base)
    (anchor : q.anchor = p.anchor) (names : p.names = q.names ++ more) (some_ : more ≠ [])
    (found : v.lookup false q = .ok ⟨place, none⟩) : (v.put place .folder).seen through p = none := by
  have shape : p = { q with names := q.names ++ more } := by rw [anchor, ← names]
  rw [shape]
  rcases List.append_eq_append_iff.mp (split.symm.trans names) with ⟨cs, _, rest⟩ | ⟨cs, before, rest⟩
  · refine seen_put rooted found some_ fun inside => proper ?_
    rw [rest]
    exact List.mem_append_right cs inside
  · cases cs with
    | nil =>
      rw [List.nil_append] at rest
      exact seen_put rooted found some_ (rest ▸ proper)
    | cons c cs =>
      -- The folder that is there lies beyond the one that is made.
      rw [before, ← anchor] at there
      exact absurd found (present_of_folder (List.cons_ne_nil c cs) there)

/-- Making the folders above a path that only goes down does not make anything at its end. -/
theorem seen_ensureFolders (rooted : Rooted v) (forward : Forward v p) (absent : v.seen through p = none)
    (system : System) : (outcome (ensureFolders p.parent system) v).2.seen through p = none := by
  obtain ⟨xs, ys, split, proper, base, there⟩ := forward
  let Good (v : Volume) := Rooted v ∧ Folder v { p with names := xs } base ∧ v.seen through p = none
  have related : Good v → Good (outcome (ensureFolders p.parent system) v).2 := by
    refine ensureFolders_related (R := fun v v' => Good v → Good v') (fun _ => id)
      (fun first second => second ∘ first) p.parent ?_ system v
    rintro v q place same ⟨zs, names⟩ found ⟨rooted, there, _⟩
    obtain ⟨_, none, _, leads⟩ := lookup_eq_ok_iff.mp found
    have grown := grown_put (leads.isPlain (isPlain_origin q)) none.symm
    refine ⟨rooted.put found, there.within grown.within, ?_⟩
    rcases List.eq_nil_or_concat p.names with empty | ⟨init, last, named⟩
    · -- The start of a path is always there, so no folder is made for it.
      have start : q.names = [] := by
        simp only [Path.parent, empty, List.dropLast_nil, List.append_eq_nil_iff] at names
        exact names.1
      cases entry_of_start start found
    · have above : p.names = q.names ++ (zs ++ [last]) := by
        simp only [Path.parent, named, List.concat_eq_append, List.dropLast_concat] at names
        rw [named, List.concat_eq_append, ← names, List.append_assoc]
      exact seen_put_above rooted split proper there same above (by simp) found
  exact (related ⟨rooted, there, absent⟩).2.2

end Making

end SiteSurvey.Volume
