import SiteSurvey.Volume.Lookup

set_option autoImplicit false

namespace SiteSurvey.Volume

/-- A place that the names of a path can lead to. The places of temporary files are none of them. -/
def Location.IsPlain (l : Location) : Prop :=
  ∀ n ∈ l.names, ∃ text, n = .plain text

theorem Location.isPlain_start : Location.start.IsPlain := by
  simp [Location.IsPlain, Location.start]

theorem Location.isPlain_elsewhere : Location.elsewhere.IsPlain := by
  simp [Location.IsPlain, Location.elsewhere]

theorem Location.IsPlain.child {l : Location} (plain : l.IsPlain) (text : String) :
    (l.child (.plain text)).IsPlain := by
  intro n found
  rcases List.mem_append.mp found with before | last
  · exact plain n before
  · exact ⟨text, List.mem_singleton.mp last⟩

theorem Location.IsPlain.parent {l : Location} (plain : l.IsPlain) : l.parent.IsPlain := by
  unfold Location.parent
  split
  · split
    · exact plain
    · exact plain
  · intro n found
    exact plain n (List.dropLast_subset _ found)

/-- What a path can go on through. -/
def Entry.isWay (e : Entry) : Bool :=
  e.isFolder || e.isLink

/-- No path goes on through what stands at a place. -/
def Solid (v : Volume) (l : Location) : Prop :=
  ∀ e, v.get? l = some e → e.isWay = false

theorem Solid.not_folder {v : Volume} {l : Location} (solid : Solid v l) : v.get? l ≠ some .folder := by
  intro folder
  have way := solid _ folder
  simp [Entry.isWay, Entry.isFolder] at way

theorem Solid.not_link {v : Volume} {l : Location} (solid : Solid v l) (target : Path) :
    v.get? l ≠ some (.link target) := by
  intro link
  have way := solid _ link
  simp [Entry.isWay, Entry.isLink] at way

theorem solid_of_ne {v : Volume} {l : Location} (noFolder : v.get? l ≠ some .folder)
    (noLink : ∀ target, v.get? l ≠ some (.link target)) : Solid v l := by
  intro e found
  cases e with
  | folder => exact absurd found noFolder
  | link target => exact absurd found (noLink target)
  | _ => rfl

def aim (place : Location) (target : Path) : Location :=
  if target.anchor == .relative then place else .elsewhere

theorem isPlain_aim {place : Location} (plain : place.IsPlain) (target : Path) :
    (aim place target).IsPlain := by
  unfold aim
  split
  · exact plain
  · exact Location.isPlain_elsewhere

/-- The ways that names lead from a place to another, with the links that may be followed at the start
and those that are left at the end. -/
inductive Leads (v : Volume) (through : Bool) : Nat → Location → List String → Nat → Location → Prop where
  | here {links : Nat} {place : Location} : Leads v through links place [] links place
  | up {links left : Nat} {place q : Location} {rest : List String}
      (folder : v.get? place = some .folder)
      (further : Leads v through links place.parent rest left q) :
      Leads v through links place (".." :: rest) left q
  | stop {links : Nat} {place : Location} {name : String}
      (folder : v.get? place = some .folder) (proper : name ≠ "..") (fits : name.utf8ByteSize ≤ maxName)
      (ends : v.get? (place.child (.plain name)) = none ∨
        through = false ∧ ∃ target, v.get? (place.child (.plain name)) = some (.link target)) :
      Leads v through links place [name] links (place.child (.plain name))
  | follow {links left : Nat} {place q : Location} {name : String} {rest : List String} {target : Path}
      (folder : v.get? place = some .folder) (proper : name ≠ "..") (fits : name.utf8ByteSize ≤ maxName)
      (link : v.get? (place.child (.plain name)) = some (.link target))
      (goes : rest ≠ [] ∨ through = true)
      (further : Leads v through links (aim place target) (target.names ++ rest) left q) :
      Leads v through (links + 1) place (name :: rest) left q
  | down {links left : Nat} {place q : Location} {name : String} {rest : List String} {e : Entry}
      (folder : v.get? place = some .folder) (proper : name ≠ "..") (fits : name.utf8ByteSize ≤ maxName)
      (entry : v.get? (place.child (.plain name)) = some e) (solid : e.isLink = false)
      (further : Leads v through links (place.child (.plain name)) rest left q) :
      Leads v through links place (name :: rest) left q

section Walk

variable {v : Volume} {through : Bool} {links : Nat} {place : Location} {name : String}
  {rest : List String}

theorem walk_nil : v.walk through links place [] = .ok { place, entry := v.get? place } := by
  rw [walk]

theorem walk_up (folder : v.get? place = some .folder) :
    v.walk through links place (".." :: rest) = v.walk through links place.parent rest := by
  rw [walk, folder]
  rfl

section Named

variable (folder : v.get? place = some .folder) (proper : name ≠ "..")
  (fits : name.utf8ByteSize ≤ maxName)

include folder proper fits

theorem walk_absent (absent : v.get? (place.child (.plain name)) = none) :
    v.walk through links place (name :: rest) =
      if rest.isEmpty then .ok { place := place.child (.plain name), entry := none } else .error .missing := by
  rw [walk, folder]
  simp only [beq_iff_eq, proper, if_false, Nat.not_lt.mpr fits, absent]

theorem walk_link {target : Path} (link : v.get? (place.child (.plain name)) = some (.link target))
    (goes : rest ≠ [] ∨ through = true) :
    v.walk through (links + 1) place (name :: rest) =
      v.walk through links (aim place target) (target.names ++ rest) := by
  have condition : (rest.isEmpty && !through) = false := by
    rcases goes with more | rfl
    · simp [more]
    · simp
  rw [walk, folder]
  simp only [aim, beq_iff_eq, proper, if_false, Nat.not_lt.mpr fits, link, condition, Bool.false_eq_true]

theorem walk_noLinks {target : Path} (link : v.get? (place.child (.plain name)) = some (.link target))
    (goes : rest ≠ [] ∨ through = true) :
    v.walk through 0 place (name :: rest) = .error .tooManyLinks := by
  have condition : (rest.isEmpty && !through) = false := by
    rcases goes with more | rfl
    · simp [more]
    · simp
  rw [walk, folder]
  simp only [beq_iff_eq, proper, if_false, Nat.not_lt.mpr fits, link, condition, Bool.false_eq_true]

theorem walk_linkEnd {target : Path} (link : v.get? (place.child (.plain name)) = some (.link target)) :
    v.walk false links place [name] =
      .ok { place := place.child (.plain name), entry := some (.link target) } := by
  rw [walk, folder]
  simp only [beq_iff_eq, proper, if_false, Nat.not_lt.mpr fits, link]
  rfl

theorem walk_down {e : Entry} (entry : v.get? (place.child (.plain name)) = some e)
    (solid : e.isLink = false) :
    v.walk through links place (name :: rest) = v.walk through links (place.child (.plain name)) rest := by
  rw [walk, folder]
  simp only [beq_iff_eq, proper, if_false, Nat.not_lt.mpr fits, entry]
  cases e with
  | link target => simp [Entry.isLink] at solid
  | file bytes => rfl
  | plugin p => rfl
  | folder => rfl

end Named

theorem walk_tooLong (folder : v.get? place = some .folder) (proper : name ≠ "..")
    (long : maxName < name.utf8ByteSize) :
    v.walk through links place (name :: rest) = .error .nameTooLong := by
  rw [walk, folder]
  simp only [beq_iff_eq, proper, if_false, long, if_true]

theorem walk_blocked (e : Entry) (entry : v.get? place = some e) (solid : e.isFolder = false) :
    v.walk through links place (name :: rest) = .error .notFolder := by
  rw [walk, entry]
  cases e with
  | folder => simp [Entry.isFolder] at solid
  | file bytes => rfl
  | plugin p => rfl
  | link target => rfl

theorem walk_missing (absent : v.get? place = none) :
    v.walk through links place (name :: rest) = .error .missing := by
  rw [walk, absent]

end Walk

theorem walk_of_leads {v : Volume} {through : Bool} {links left : Nat} {place q : Location}
    {names : List String} (leads : Leads v through links place names left q) :
    v.walk through links place names = .ok { place := q, entry := v.get? q } := by
  induction leads with
  | here => exact walk_nil
  | up folder _ ih => rw [walk_up folder, ih]
  | stop folder proper fits ends =>
    rcases ends with absent | ⟨rfl, target, link⟩
    · rw [walk_absent folder proper fits absent, absent]
      rfl
    · rw [walk_linkEnd folder proper fits link, link]
  | follow folder proper fits link goes _ ih => rw [walk_link folder proper fits link goes, ih]
  | down folder proper fits entry solid _ ih => rw [walk_down folder proper fits entry solid, ih]

theorem Leads.unique {v : Volume} {through : Bool} {links left left' : Nat} {place q q' : Location}
    {names : List String} (leads : Leads v through links place names left q)
    (leads' : Leads v through links place names left' q') : q = q' := by
  have same := Except.ok.inj ((walk_of_leads leads).symm.trans (walk_of_leads leads'))
  exact congrArg Spot.place same

/-- Induction along a walk. A proper name is one that is no step up and not too long. -/
theorem walk_induction (v : Volume) (through : Bool) {motive : Nat → Location → List String → Prop}
    (nil : ∀ links place, motive links place [])
    (blocked : ∀ links place name rest, v.get? place ≠ some .folder → motive links place (name :: rest))
    (up : ∀ links place rest, v.get? place = some .folder → motive links place.parent rest →
      motive links place (".." :: rest))
    (tooLong : ∀ links place name rest, v.get? place = some .folder → name ≠ ".." →
      maxName < name.utf8ByteSize → motive links place (name :: rest))
    (absent : ∀ links place name rest, v.get? place = some .folder → name ≠ ".." →
      name.utf8ByteSize ≤ maxName → v.get? (place.child (.plain name)) = none →
      motive links place (name :: rest))
    (linkEnd : ∀ links place name target, v.get? place = some .folder → name ≠ ".." →
      name.utf8ByteSize ≤ maxName → v.get? (place.child (.plain name)) = some (.link target) →
      through = false → motive links place [name])
    (noLinks : ∀ place name rest target, v.get? place = some .folder → name ≠ ".." →
      name.utf8ByteSize ≤ maxName → v.get? (place.child (.plain name)) = some (.link target) →
      rest ≠ [] ∨ through = true → motive 0 place (name :: rest))
    (follow : ∀ links place name rest target, v.get? place = some .folder → name ≠ ".." →
      name.utf8ByteSize ≤ maxName → v.get? (place.child (.plain name)) = some (.link target) →
      rest ≠ [] ∨ through = true → motive links (aim place target) (target.names ++ rest) →
      motive (links + 1) place (name :: rest))
    (down : ∀ links place name rest e, v.get? place = some .folder → name ≠ ".." →
      name.utf8ByteSize ≤ maxName → v.get? (place.child (.plain name)) = some e → e.isLink = false →
      motive links (place.child (.plain name)) rest → motive links place (name :: rest))
    (links : Nat) (place : Location) (names : List String) : motive links place names := by
  have going : ∀ {rest : List String}, ¬(rest.isEmpty && !through) = true → rest ≠ [] ∨ through = true := by
    intro rest goes
    cases rest with
    | nil => simpa using goes
    | cons name rest => exact .inl (List.cons_ne_nil _ _)
  induction links, place, names using walk.induct v through with
  | case1 links place => exact nil links place
  | case2 links place name rest entry => exact blocked _ _ _ _ (by simp [entry])
  | case3 links place name rest bytes entry => exact blocked _ _ _ _ (by simp [entry])
  | case4 links place name rest p entry => exact blocked _ _ _ _ (by simp [entry])
  | case5 links place name rest target entry => exact blocked _ _ _ _ (by simp [entry])
  | case6 links place name rest folder parent ih =>
    rw [beq_iff_eq.mp parent]
    exact up _ _ _ folder ih
  | case7 links place name rest folder proper long =>
    exact tooLong _ _ _ _ folder (by simpa using proper) long
  | case8 links place name rest folder proper fits next none _ =>
    exact absent _ _ _ _ folder (by simpa using proper) (Nat.not_lt.mp fits) none
  | case9 links place name rest folder proper fits next none _ =>
    exact absent _ _ _ _ folder (by simpa using proper) (Nat.not_lt.mp fits) none
  | case10 links place name rest folder proper fits next target link ends =>
    simp only [Bool.and_eq_true, List.isEmpty_iff, Bool.not_eq_true'] at ends
    rw [ends.1]
    exact linkEnd _ _ _ _ folder (by simpa using proper) (Nat.not_lt.mp fits) link ends.2
  | case11 place name rest folder proper fits next target link goes =>
    exact noLinks _ _ _ _ folder (by simpa using proper) (Nat.not_lt.mp fits) link (going goes)
  | case12 place name rest folder proper fits next target link goes fewer from_ ih =>
    exact follow _ _ _ _ _ folder (by simpa using proper) (Nat.not_lt.mp fits) link (going goes) ih
  | case13 links place name rest folder proper fits next e solid entry ih =>
    have noLink : e.isLink = false := by
      cases e with
      | link target => exact absurd rfl (solid target)
      | _ => rfl
    exact down _ _ _ _ _ folder (by simpa using proper) (Nat.not_lt.mp fits) entry noLink ih

theorem isFolder_eq_false {v : Volume} {l : Location} {e : Entry} (entry : v.get? l = some e)
    (other : v.get? l ≠ some .folder) : e.isFolder = false := by
  cases e with
  | folder => exact absurd entry other
  | _ => rfl

theorem leads_of_walk {v : Volume} {through : Bool} {links : Nat} {place : Location}
    {names : List String} {s : Spot} (found : v.walk through links place names = .ok s) :
    s.entry = v.get? s.place ∧ ∃ left, Leads v through links place names left s.place := by
  induction links, place, names using walk_induction v through with
  | nil links place =>
    cases walk_nil.symm.trans found
    exact ⟨rfl, links, .here⟩
  | blocked links place name rest other =>
    cases entry : v.get? place with
    | none => simp [walk_missing entry] at found
    | some e =>
      have solid := isFolder_eq_false entry other
      simp [walk_blocked e entry solid] at found
  | up links place rest folder ih =>
    rw [walk_up folder] at found
    obtain ⟨entry, left, further⟩ := ih found
    exact ⟨entry, left, .up folder further⟩
  | tooLong links place name rest folder proper long =>
    simp [walk_tooLong folder proper long] at found
  | absent links place name rest folder proper fits none =>
    rw [walk_absent folder proper fits none] at found
    cases rest with
    | nil =>
      cases found
      exact ⟨none.symm, links, .stop folder proper fits (.inl none)⟩
    | cons _ _ => simp at found
  | linkEnd links place name target folder proper fits link last =>
    subst last
    cases (walk_linkEnd folder proper fits link).symm.trans found
    exact ⟨link.symm, links, .stop folder proper fits (.inr ⟨rfl, target, link⟩)⟩
  | noLinks place name rest target folder proper fits link goes =>
    simp [walk_noLinks folder proper fits link goes] at found
  | follow links place name rest target folder proper fits link goes ih =>
    rw [walk_link folder proper fits link goes] at found
    obtain ⟨entry, left, further⟩ := ih found
    exact ⟨entry, left, .follow folder proper fits link goes further⟩
  | down links place name rest e folder proper fits entry solid ih =>
    rw [walk_down folder proper fits entry solid] at found
    obtain ⟨result, left, further⟩ := ih found
    exact ⟨result, left, .down folder proper fits entry solid further⟩

section Leads

variable {v v' : Volume} {through : Bool} {links left : Nat} {place q : Location}

theorem Leads.folder_of_cons {name : String} {rest : List String}
    (leads : Leads v through links place (name :: rest) left q) : v.get? place = some .folder := by
  cases leads <;> assumption

theorem Leads.isPlain {names : List String} (leads : Leads v through links place names left q)
    (plain : place.IsPlain) : q.IsPlain := by
  induction leads with
  | here => exact plain
  | up _ _ ih => exact ih plain.parent
  | stop _ _ _ _ => exact plain.child _
  | follow _ _ _ _ _ _ ih => exact ih (isPlain_aim plain _)
  | down _ _ _ _ _ _ ih => exact ih (plain.child _)

/-- The names before the last ones are followed through links, and to a folder. -/
theorem leads_append {xs ys : List String} (more : ys ≠ []) :
    Leads v through links place (xs ++ ys) left q ↔
      ∃ middle r, Leads v true links place xs middle r ∧ Leads v through middle r ys left q := by
  constructor
  · intro leads
    generalize all : xs ++ ys = names at leads
    induction leads generalizing xs with
    | here => exact absurd (List.append_eq_nil_iff.mp all).2 more
    | up folder further ih =>
      cases xs with
      | nil =>
        rw [List.nil_append] at all
        subst all
        exact ⟨_, _, .here, .up folder further⟩
      | cons x xs =>
        obtain ⟨rfl, rfl⟩ := List.cons_eq_cons.mp all
        obtain ⟨middle, r, first, second⟩ := ih rfl
        exact ⟨middle, r, .up folder first, second⟩
    | stop folder proper fits ends =>
      cases xs with
      | nil =>
        rw [List.nil_append] at all
        subst all
        exact ⟨_, _, .here, .stop folder proper fits ends⟩
      | cons x xs =>
        obtain ⟨_, none⟩ := List.cons_eq_cons.mp all
        exact absurd (List.append_eq_nil_iff.mp none).2 more
    | follow folder proper fits link goes further ih =>
      cases xs with
      | nil =>
        rw [List.nil_append] at all
        subst all
        exact ⟨_, _, .here, .follow folder proper fits link goes further⟩
      | cons x xs =>
        obtain ⟨rfl, rfl⟩ := List.cons_eq_cons.mp all
        obtain ⟨middle, r, first, second⟩ := ih (List.append_assoc _ _ _)
        exact ⟨middle, r, .follow folder proper fits link (.inr rfl) first, second⟩
    | down folder proper fits entry solid further ih =>
      cases xs with
      | nil =>
        rw [List.nil_append] at all
        subst all
        exact ⟨_, _, .here, .down folder proper fits entry solid further⟩
      | cons x xs =>
        obtain ⟨rfl, rfl⟩ := List.cons_eq_cons.mp all
        obtain ⟨middle, r, first, second⟩ := ih rfl
        exact ⟨middle, r, .down folder proper fits entry solid first, second⟩
  · rintro ⟨middle, r, first, second⟩
    induction first with
    | here => exact second
    | up folder _ ih => exact .up folder (ih second)
    | stop _ _ _ ends =>
      -- More names follow, so a folder stands where the first ones lead.
      obtain ⟨y, ys, rfl⟩ := List.exists_cons_of_ne_nil more
      have folder := second.folder_of_cons
      simp [folder] at ends
    | follow folder proper fits link _ _ ih =>
      have further := ih second
      rw [List.append_assoc] at further
      exact .follow folder proper fits link (.inl (by simp [more])) further
    | down folder proper fits entry solid _ ih => exact .down folder proper fits entry solid (ih second)

theorem Leads.last {name : String} (folder : v.get? place = some .folder) (proper : name ≠ "..")
    (fits : name.utf8ByteSize ≤ maxName)
    (ends : through = true → ∀ target, v.get? (place.child (.plain name)) ≠ some (.link target)) :
    Leads v through links place [name] links (place.child (.plain name)) := by
  cases entry : v.get? (place.child (.plain name)) with
  | none => exact .stop folder proper fits (.inl entry)
  | some e =>
    cases e with
    | link target =>
      cases through with
      | true => exact absurd entry (ends rfl target)
      | false => exact .stop folder proper fits (.inr ⟨rfl, target, entry⟩)
    | _ => exact .down folder proper fits entry rfl .here

theorem leads_singleton {name : String} (proper : name ≠ "..") :
    Leads v false links place [name] left q ↔
      v.get? place = some .folder ∧ name.utf8ByteSize ≤ maxName ∧ left = links ∧
        q = place.child (.plain name) := by
  constructor
  · intro leads
    cases leads with
    | up _ _ => exact absurd rfl proper
    | stop folder _ fits _ => exact ⟨folder, fits, rfl, rfl⟩
    | follow _ _ _ _ goes _ => simp at goes
    | down folder _ fits _ _ further =>
      cases further
      exact ⟨folder, fits, rfl, rfl⟩
  · rintro ⟨folder, fits, rfl, rfl⟩
    exact .last folder proper fits (by simp)

/-- Whatever a path goes on through in one volume is also in the other. -/
def Within (v v' : Volume) : Prop :=
  ∀ l : Location, l.IsPlain → ∀ e, v.get? l = some e → e.isWay = true → v'.get? l = some e

/-- A path still leads to the same place, unless a link has come to stand there. -/
theorem Leads.within {names : List String} (within : Within v v')
    (leads : Leads v through links place names left q) (plain : place.IsPlain)
    (ends : through = true → ∀ target, v'.get? q ≠ some (.link target)) :
    Leads v' through links place names left q := by
  induction leads with
  | here => exact .here
  | up folder _ ih => exact .up (within _ plain _ folder rfl) (ih plain.parent ends)
  | stop folder proper fits _ => exact .last (within _ plain _ folder rfl) proper fits ends
  | follow folder proper fits link goes _ ih =>
    exact .follow (within _ plain _ folder rfl) proper fits (within _ (plain.child _) _ link rfl) goes
      (ih (isPlain_aim plain _) ends)
  | @down _ _ _ _ _ rest e folder proper fits entry solid further ih =>
    have folder' := within _ plain _ folder rfl
    cases rest with
    | nil =>
      cases further
      exact .last folder' proper fits ends
    | cons _ _ =>
      -- The walk goes on from here, so a folder stands here, and it has stayed.
      have next := further.folder_of_cons
      exact .down folder' proper fits (within _ (plain.child _) _ next rfl) rfl (ih (plain.child _) ends)

theorem Leads.passing {names : List String} (leads : Leads v false links place names left q)
    (noLink : ∀ target, v.get? q ≠ some (.link target)) : Leads v true links place names left q := by
  induction leads with
  | here => exact .here
  | up folder _ ih => exact .up folder (ih noLink)
  | stop folder proper fits _ => exact .last folder proper fits fun _ => noLink
  | follow folder proper fits link _ _ ih => exact .follow folder proper fits link (.inr rfl) (ih noLink)
  | down folder proper fits entry solid _ ih => exact .down folder proper fits entry solid (ih noLink)

theorem Leads.stopping {names : List String} (leads : Leads v true links place names left q)
    (present : v.get? q ≠ none) :
    ∃ left' q', Leads v false links place names left' q' ∧ v.get? q' ≠ none := by
  induction leads with
  | here => exact ⟨_, _, .here, present⟩
  | up folder _ ih =>
    obtain ⟨left', q', further, found⟩ := ih present
    exact ⟨left', q', .up folder further, found⟩
  | stop folder proper fits ends => simp [present] at ends
  | @follow _ _ _ _ _ rest target folder proper fits link _ _ ih =>
    cases rest with
    | nil => exact ⟨_, _, .stop folder proper fits (.inr ⟨rfl, target, link⟩), by simp [link]⟩
    | cons _ _ =>
      obtain ⟨left', q', further, found⟩ := ih present
      exact ⟨left', q', .follow folder proper fits link (.inl (List.cons_ne_nil _ _)) further, found⟩
  | down folder proper fits entry solid _ ih =>
    obtain ⟨left', q', further, found⟩ := ih present
    exact ⟨left', q', .down folder proper fits entry solid further, found⟩

end Leads

/-- A path that fails before its end fails whether or not a link at its end would be followed. -/
theorem walk_through_error {v : Volume} {links : Nat} {place : Location} {names : List String}
    {fault : VolumeFault} (failed : v.walk false links place names = .error fault) :
    v.walk true links place names = .error fault := by
  induction links, place, names using walk_induction v false with
  | nil links place => simp [walk_nil] at failed
  | blocked links place name rest other =>
    cases entry : v.get? place with
    | none =>
      rw [walk_missing entry] at failed ⊢
      exact failed
    | some e =>
      have solid := isFolder_eq_false entry other
      rw [walk_blocked e entry solid] at failed ⊢
      exact failed
  | up links place rest folder ih =>
    rw [walk_up folder] at failed ⊢
    exact ih failed
  | tooLong links place name rest folder proper long =>
    rw [walk_tooLong folder proper long] at failed ⊢
    exact failed
  | absent links place name rest folder proper fits none =>
    rw [walk_absent folder proper fits none] at failed ⊢
    exact failed
  | linkEnd links place name target folder proper fits link _ =>
    simp [walk_linkEnd folder proper fits link] at failed
  | noLinks place name rest target folder proper fits link goes =>
    rw [walk_noLinks folder proper fits link goes] at failed
    rw [walk_noLinks folder proper fits link (.inr rfl), failed]
  | follow links place name rest target folder proper fits link goes ih =>
    rw [walk_link folder proper fits link goes] at failed
    rw [walk_link folder proper fits link (.inr rfl)]
    exact ih failed
  | down links place name rest e folder proper fits entry solid ih =>
    rw [walk_down folder proper fits entry solid] at failed ⊢
    exact ih failed

/-- A file in the way of a path to a folder stops it there, or is where it ends. -/
theorem walk_past_file {v v' : Volume} {links left : Nat} {place q blocked : Location}
    {names : List String} {bytes : ByteArray} (leads : Leads v true links place names left q)
    (plain : place.IsPlain) (folder : v.get? q = some .folder) (file : v'.get? blocked = some (.file bytes))
    (others : ∀ l : Location, l.IsPlain → l ≠ blocked → v'.get? l = v.get? l)
    (noFolder : v.get? blocked ≠ some .folder) :
    v'.walk true links place names = .ok { place := q, entry := some .folder } ∨
      v'.walk true links place names = .error .notFolder ∨
      v'.walk true links place names = .ok { place := blocked, entry := some (.file bytes) } := by
  have stays : ∀ l : Location, l.IsPlain → v.get? l = some .folder → v'.get? l = some .folder := by
    intro l plain found
    rw [others l plain fun same => noFolder (same ▸ found), found]
  induction leads with
  | here =>
    left
    rw [walk_nil, stays _ plain folder]
  | up here _ ih =>
    rw [walk_up (stays _ plain here)]
    exact ih plain.parent folder
  | stop _ _ _ ends => simp [folder] at ends
  | @follow links _ place _ name rest target here proper fits link _ _ ih =>
    have here' := stays _ plain here
    -- The file may have taken the place of this very link.
    by_cases same : place.child (.plain name) = blocked
    · rw [walk_down here' proper fits (same ▸ file) rfl]
      cases rest with
      | nil => exact .inr (.inr (by rw [walk_nil, same, file]))
      | cons _ _ => exact .inr (.inl (walk_blocked _ (same ▸ file) rfl))
    · have link' := (others _ (plain.child name) same).trans link
      rw [walk_link here' proper fits link' (.inr rfl)]
      exact ih (isPlain_aim plain _) folder
  | @down _ _ place _ name rest e here proper fits entry solid further ih =>
    -- The path ends in a folder, so whatever it goes down through is a folder too, and has stayed.
    have next : v.get? (place.child (.plain name)) = some .folder := by
      cases rest with
      | nil =>
        cases further
        exact folder
      | cons _ _ => exact further.folder_of_cons
    rw [walk_down (stays _ plain here) proper fits (stays _ (plain.child name) next) rfl]
    exact ih (plain.child name) folder

end SiteSurvey.Volume
