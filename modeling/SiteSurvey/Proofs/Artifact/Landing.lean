import SiteSurvey.Artifact
import SiteSurvey.Proofs.Text.Utf8
import SiteSurvey.Proofs.Volume.Change

set_option autoImplicit false

namespace SiteSurvey.Artifact

open Volume

/-- How a file comes to lie under a name in a folder: the folder is made, which leaves the volume
`ready`. A temporary file finds room in a folder, and the place of the name holds no folder. -/
structure Landing (v : Volume) (folder : Path) (name : String) (ready : Volume) (scratch place : Location) :
    Prop where
  made : outcome (ensureFolders folder) v = (.ok (), ready)
  room : Folder ready (straight folder) scratch
  fits : name.utf8ByteSize + temporaryExtra ≤ maxName
  askable : Askable (folder.child name)
  there : Folder ready folder place
  free : ready.get? (place.child (.plain name)) ≠ some .folder

def drafted (ready : Volume) (name : String) (scratch : Location) (bytes : ByteArray) : Volume :=
  (withTemporary ready scratch name).put (scratch.child (.temporary name ready.serial)) (.file bytes)

def settled (ready : Volume) (name : String) (scratch place : Location) (bytes : ByteArray) : Volume :=
  ((drafted ready name scratch bytes).erase (scratch.child (.temporary name ready.serial))).put place (.file bytes)

def landed (ready : Volume) (name : String) (scratch place : Location) (bytes : ByteArray) : Volume :=
  settled ready name scratch (place.child (.plain name)) bytes

theorem child_names_ne_nil (l : Location) (n : Name) : (l.child n).names ≠ [] := by
  simp [Location.child]

theorem ne_temporary_of_isPlain {l : Location} (plain : l.IsPlain) (scratch : Location) (stem : String)
    (serial : Nat) : l ≠ scratch.child (.temporary stem serial) := by
  rintro rfl
  obtain ⟨text, same⟩ := plain (.temporary stem serial) (by simp [Location.child])
  cases same

section Places

variable {ready : Volume} {name : String} {scratch place l : Location} {bytes : ByteArray}

theorem get?_drafted_of_ne (other : l ≠ scratch.child (.temporary name ready.serial)) :
    (drafted ready name scratch bytes).get? l = ready.get? l := by
  rw [drafted, get?_put_of_ne other]
  exact get?_put_of_ne (v := ready) other

theorem get?_drafted (plain : l.IsPlain) : (drafted ready name scratch bytes).get? l = ready.get? l :=
  get?_drafted_of_ne (ne_temporary_of_isPlain plain scratch name ready.serial)

theorem get?_settled_of_ne (named : place.names ≠ []) (other : l ≠ scratch.child (.temporary name ready.serial)) :
    (settled ready name scratch place bytes).get? l = if l = place then some (.file bytes) else ready.get? l := by
  by_cases same : l = place
  · subst same
    rw [if_pos rfl, settled, get?_put_self named]
  · rw [if_neg same, settled, get?_put_of_ne same, get?_erase_of_ne other, get?_drafted_of_ne other]

theorem get?_landed_of_ne (other : l ≠ scratch.child (.temporary name ready.serial)) :
    (landed ready name scratch place bytes).get? l =
      if l = place.child (.plain name) then some (.file bytes) else ready.get? l :=
  get?_settled_of_ne (child_names_ne_nil _ _) other

theorem get?_landed (plain : l.IsPlain) :
    (landed ready name scratch place bytes).get? l =
      if l = place.child (.plain name) then some (.file bytes) else ready.get? l :=
  get?_landed_of_ne (ne_temporary_of_isPlain plain scratch name ready.serial)

theorem within_drafted : Within ready (drafted ready name scratch bytes) := by
  intro l plain e found _
  rw [get?_drafted plain, found]

theorem within_of_drafted : Within (drafted ready name scratch bytes) ready := by
  intro l plain e found _
  rw [← found, get?_drafted plain]

/-- A file that comes to stand in place of no folder and no link leaves all ways as they are. -/
theorem within_settled (named : place.names ≠ []) (solid : Solid ready place) :
    Within ready (settled ready name scratch place bytes) := by
  intro l plain e found way
  rw [get?_settled_of_ne named (ne_temporary_of_isPlain plain scratch name ready.serial), if_neg, found]
  rintro rfl
  simp [solid e found] at way

theorem within_landed (solid : Solid ready (place.child (.plain name))) :
    Within ready (landed ready name scratch place bytes) :=
  within_settled (child_names_ne_nil _ _) solid

end Places

section Writing

variable {w w' : World} {folder : Path} {name : String} {ready : Volume} {scratch place : Location}
  {content : Text}

theorem named_child (folder : Path) {name : String} (proper : name ≠ "..") :
    ((folder.child name).names.isEmpty || (folder.child name).name == "..") = false := by
  have notUp : ((folder.child name).name == "..") = false := by simpa using proper
  rw [notUp, Bool.or_false]
  simp [Path.child]

theorem outcome_prepare (landing : Landing w.volume folder name ready scratch place) :
    ∃ text, outcome (Survey.apply (unwritable (folder.child name)) do
        ensureFolders (folder.child name).parent
        makeTemporary (folder.child name).parent (folder.child name).name) w =
      (.ok (scratch.child (.temporary name ready.serial), text),
        { w with volume := withTemporary ready scratch name }) := by
  have nullFree : name.toList.contains '\x00' = false := by
    have all := landing.askable.1
    simp only [Path.child, List.any_append, Bool.or_eq_false_iff, List.any_cons] at all
    exact all.2.1
  obtain ⟨text, made⟩ := outcome_makeTemporary nullFree landing.fits landing.room
  refine ⟨text, ?_⟩
  rw [Survey.outcome_apply, Path.parent_child, Path.name_child, outcome_bind_ok landing.made, made]
  rfl

theorem lookup_drafted (proper : name ≠ "..")
    (landing : Landing w.volume folder name ready scratch place) (bytes : ByteArray) :
    (drafted ready name scratch bytes).lookup false (folder.child name) =
      .ok { place := place.child (.plain name), entry := ready.get? (place.child (.plain name)) } := by
  refine (lookup_child_iff proper).mpr ⟨landing.askable, ?_, place, ?_, ?_⟩
  · have fits := landing.fits
    omega
  · exact landing.there.within within_drafted
  · rw [get?_drafted (landing.there.isPlain.child name)]

theorem outcome_writeText (proper : name ≠ "..")
    (landing : Landing w.volume folder name ready scratch place) (whole : content.hasSurrogate = false) :
    outcome (writeText (folder.child name) content) w =
      (.ok (folder.child name),
        { w with volume := landed ready name scratch place (Utf8.encode content) }) := by
  obtain ⟨text, prepared⟩ := outcome_prepare landing
  have temporary : (drafted ready name scratch (Utf8.encode content)).get?
      (scratch.child (.temporary name ready.serial)) = some (.file (Utf8.encode content)) :=
    get?_put_self (child_names_ne_nil _ _)
  have moved : outcome (Survey.apply (unwritable (folder.child name)) do
        fill (scratch.child (.temporary name ready.serial)) (Utf8.encode content)
        move (scratch.child (.temporary name ready.serial)) text (folder.child name))
        { w with volume := withTemporary ready scratch name } =
      (.ok (), { w with volume := landed ready name scratch place (Utf8.encode content) }) := by
    rw [Survey.outcome_apply, outcome_bind_ok (outcome_fill _ _ _), ← drafted,
      outcome_move (named_child folder proper)]
    simp only [lookup_drafted proper landing, temporary]
    -- The file may take the place of a file or a link, but not of a folder.
    cases here : ready.get? (place.child (.plain name)) with
    | none => rfl
    | some e =>
      cases e with
      | folder => exact absurd here landing.free
      | _ => rfl
  refine (outcome_bind_ok prepared).trans ?_
  simp only [Utf8.firstSurrogates?_eq_none_iff.mpr whole]
  exact outcome_bind_ok (outcome_tryCatch_ok moved)

theorem outcome_writeText_surrogate (landing : Landing w.volume folder name ready scratch place)
    (broken : content.hasSurrogate = true) :
    ∃ message, outcome (writeText (folder.child name) content) w =
      (.error (.unencodable message), { w with volume := withTemporary ready scratch name }) := by
  obtain ⟨text, prepared⟩ := outcome_prepare landing
  cases found : Utf8.firstSurrogates? content with
  | none => simp [Utf8.firstSurrogates?_eq_none_iff.mp found] at broken
  | some surrogates =>
    refine ⟨Utf8.surrogateMessage surrogates.1 surrogates.2, ?_⟩
    refine (outcome_bind_ok prepared).trans ?_
    simp only [found]
    rfl

end Writing

/-- Why a write fails: something is wrong with the volume or the system, or the text has no encoding. -/
def Reason (p : Path) (f : Failure) : Prop :=
  (∃ t, f = unwritable p t) ∨ ∃ message, f = .unencodable message

/-- The courses that a write can take, each with the trouble that stops it. No temporary file is made, or the text
that it is made for has no encoding, or the text cannot be brought to the end of the path, or it lands there. -/
inductive Course (v : Volume) (p : Path) (content : Text) (system : System) :
    Except Failure Path → Volume → Prop where
  | unready {t : Trouble}
      (failed : outcome (do
          ensureFolders p.parent system
          makeTemporary p.parent p.name (system.refusal .makeTemporary)) v =
        (.error t, (outcome (ensureFolders p.parent system) v).2)) :
      Course v p content system (.error (unwritable p t)) (outcome (ensureFolders p.parent system) v).2
  | broken {message : Text} {ready : Volume} {scratch : Location} (half : content.hasSurrogate = true)
      (made : outcome (ensureFolders p.parent system) v = (.ok (), ready))
      (room : Folder ready (straight p.parent) scratch) :
      Course v p content system (.error (.unencodable message)) (withTemporary ready scratch p.name)
  | stopped {t : Trouble} {text : String} {ready : Volume} {scratch : Location} {part : ByteArray}
      (made : outcome (ensureFolders p.parent system) v = (.ok (), ready))
      (room : Folder ready (straight p.parent) scratch)
      (failed : outcome (do
          fill (scratch.child (.temporary p.name ready.serial)) (Utf8.encode content) system
          move (scratch.child (.temporary p.name ready.serial)) text p (system.refusal .move))
          (withTemporary ready scratch p.name) = (.error t, drafted ready p.name scratch part)) :
      Course v p content system (.error (unwritable p t))
        ((drafted ready p.name scratch part).discard (scratch.child (.temporary p.name ready.serial)) system)
  | landed {ready : Volume} {scratch : Location} {s : Spot} (whole : content.hasSurrogate = false)
      (made : outcome (ensureFolders p.parent system) v = (.ok (), ready))
      (room : Folder ready (straight p.parent) scratch)
      (fits : p.name.utf8ByteSize + temporaryExtra ≤ maxName)
      (found : (drafted ready p.name scratch (Utf8.encode content)).lookup false p = .ok s)
      (free : s.entry ≠ some .folder) :
      Course v p content system (.ok p) (settled ready p.name scratch s.place (Utf8.encode content))

/-- All that a write can come to. It may end before there is a temporary file, with some folders made. It may
fail later, and then nothing differs but the temporary file. Or the temporary file takes the place of what
stood at the end of the path, which was no folder. -/
inductive Ending (v : Volume) (p : Path) (content : Text) (system : System) :
    Except Failure Path → Volume → Prop where
  | unbegun {f : Failure} (reason : Reason p f) :
      Ending v p content system (.error f) (outcome (ensureFolders p.parent system) v).2
  | abandoned {f : Failure} {ready v' : Volume} {scratch : Location} (reason : Reason p f)
      (made : outcome (ensureFolders p.parent system) v = (.ok (), ready))
      (room : Folder ready (straight p.parent) scratch) (serial : v'.serial = ready.serial + 1)
      (others : ∀ l, l ≠ scratch.child (.temporary p.name ready.serial) → v'.get? l = ready.get? l) :
      Ending v p content system (.error f) v'
  | landed {ready : Volume} {scratch : Location} {s : Spot} (whole : content.hasSurrogate = false)
      (made : outcome (ensureFolders p.parent system) v = (.ok (), ready))
      (room : Folder ready (straight p.parent) scratch)
      (fits : p.name.utf8ByteSize + temporaryExtra ≤ maxName)
      (found : (drafted ready p.name scratch (Utf8.encode content)).lookup false p = .ok s)
      (free : s.entry ≠ some .folder) :
      Ending v p content system (.ok p) (settled ready p.name scratch s.place (Utf8.encode content))

section Ending

variable {w w' : World} {folder : Path} {name : String} {content : Text} {system : System}

theorem prepare_cases (v : Volume) (p : Path) (system : System) :
    (∃ t, outcome (do
        ensureFolders p.parent system
        makeTemporary p.parent p.name (system.refusal .makeTemporary)) v =
      (.error t, (outcome (ensureFolders p.parent system) v).2)) ∨
    ∃ ready scratch text, outcome (ensureFolders p.parent system) v = (.ok (), ready) ∧
      p.name.utf8ByteSize + temporaryExtra ≤ maxName ∧ Folder ready (straight p.parent) scratch ∧
      outcome (do
          ensureFolders p.parent system
          makeTemporary p.parent p.name (system.refusal .makeTemporary)) v =
        (.ok (scratch.child (.temporary p.name ready.serial), text), withTemporary ready scratch p.name) := by
  cases made : outcome (ensureFolders p.parent system) v with
  | mk r ready =>
    cases r with
    | error t => exact .inl ⟨t, outcome_bind_error made⟩
    | ok _ =>
      rw [outcome_bind_ok made]
      rcases makeTemporary_cases ready p.parent p.name (system.refusal .makeTemporary) with
        ⟨t, failed⟩ | ⟨scratch, text, fits, room, drafting⟩
      · exact .inl ⟨t, failed⟩
      · exact .inr ⟨ready, scratch, text, rfl, fits, room, drafting⟩

/-- Every write, whatever the system refuses, takes one of the courses. -/
theorem writeText_course (p : Path) (content : Text) (system : System) (w : World) :
    ∃ r v', outcome (writeText p content system) w = (r, { w with volume := v' }) ∧
      Course w.volume p content system r v' := by
  have prepare := Survey.outcome_apply (w := w) (unwritable p) (do
    ensureFolders p.parent system
    makeTemporary p.parent p.name (system.refusal .makeTemporary))
  rcases prepare_cases w.volume p system with ⟨t, failed⟩ | ⟨ready, scratch, text, made, fits, room, prepared⟩
  · rw [failed] at prepare
    exact ⟨_, _, outcome_bind_error prepare, .unready failed⟩
  · rw [prepared] at prepare
    -- The temporary file is there. A text without an encoding leaves it empty, and nothing takes it away.
    cases broken : Utf8.firstSurrogates? content with
    | some surrogates =>
      have half : content.hasSurrogate = true := by
        cases whole : content.hasSurrogate with
        | true => rfl
        | false => cases (Utf8.firstSurrogates?_eq_none_iff.mpr whole).symm.trans broken
      refine ⟨.error (.unencodable (Utf8.surrogateMessage surrogates.1 surrogates.2)),
        withTemporary ready scratch p.name, (outcome_bind_ok prepare).trans ?_, .broken half made room⟩
      simp only [broken]
      rfl
    | none =>
      have whole : content.hasSurrogate = false := Utf8.firstSurrogates?_eq_none_iff.mp broken
      have named := child_names_ne_nil scratch (.temporary p.name ready.serial)
      have delivery := Survey.outcome_apply (w := { w with volume := withTemporary ready scratch p.name })
        (unwritable p) (do
          fill (scratch.child (.temporary p.name ready.serial)) (Utf8.encode content) system
          move (scratch.child (.temporary p.name ready.serial)) text p (system.refusal .move))
      rcases deliver_cases (withTemporary ready scratch p.name) named text p (Utf8.encode content) system with
        ⟨t, part, failed⟩ | ⟨s, found, free, moved⟩
      · rw [failed] at delivery
        refine ⟨.error (unwritable p t), _, (outcome_bind_ok prepare).trans ?_, .stopped made room failed⟩
        simp only [broken]
        refine outcome_bind_error ((outcome_tryCatch_error delivery).trans ?_)
        rfl
      · rw [moved] at delivery
        refine ⟨.ok p, _, (outcome_bind_ok prepare).trans ?_, .landed whole made room fits found free⟩
        simp only [broken]
        exact outcome_bind_ok (outcome_tryCatch_ok delivery)

theorem Course.ending {v v' : Volume} {p : Path} {r : Except Failure Path} (course : Course v p content system r v') :
    Ending v p content system r v' := by
  cases course with
  | unready => exact .unbegun (.inl ⟨_, rfl⟩)
  | @broken _ ready _ _ made room =>
    exact .abandoned (.inr ⟨_, rfl⟩) made room rfl fun l other => get?_put_of_ne (v := ready) other
  | stopped made room _ =>
    exact .abandoned (.inl ⟨_, rfl⟩) made room (serial_discard _ _ _) fun l other =>
      (get?_discard_of_ne other).trans (get?_drafted_of_ne other)
  | landed whole made room fits found free => exact .landed whole made room fits found free

/-- Every write, whatever the system refuses, comes to one of the endings. -/
theorem writeText_ends (p : Path) (content : Text) (system : System) (w : World) :
    ∃ r v', outcome (writeText p content system) w = (r, { w with volume := v' }) ∧
      Ending w.volume p content system r v' := by
  obtain ⟨r, v', ended, course⟩ := writeText_course p content system w
  exact ⟨r, v', ended, course.ending⟩

/-- A text that is written was encodable, and has landed under its name. -/
theorem landing_of_writeText {p : Path} (proper : name ≠ "..")
    (written : outcome (writeText (folder.child name) content) w = (.ok p, w')) :
    content.hasSurrogate = false ∧ p = folder.child name ∧ ∃ ready scratch place,
      Landing w.volume folder name ready scratch place ∧
        w' = { w with volume := landed ready name scratch place (Utf8.encode content) } := by
  obtain ⟨r, v', ended, ending⟩ := writeText_ends (folder.child name) content .willing w
  obtain ⟨rfl, rfl⟩ := Prod.mk.inj (ended.symm.trans written)
  cases ending with
  | landed whole made room fits found free =>
    rename_i ready scratch s
    rw [Path.parent_child] at made room
    obtain ⟨askable, _, place, there, rfl⟩ := (lookup_child_iff proper).mp found
    have there' := there.within within_of_drafted
    rw [Path.name_child] at fits
    rw [Path.name_child, get?_drafted (there'.isPlain.child name)] at free
    refine ⟨whole, rfl, ready, scratch, place, ⟨made, room, fits, askable, there', free⟩, ?_⟩
    rw [Path.name_child]
    rfl

theorem writeText_eq_error {p : Path} {f : Failure}
    (failed : outcome (writeText p content system) w = (.error f, w')) : Reason p f := by
  obtain ⟨r, v', ended, ending⟩ := writeText_ends p content system w
  obtain ⟨rfl, rfl⟩ := Prod.mk.inj (ended.symm.trans failed)
  cases ending with
  | unbegun reason => exact reason
  | abandoned reason _ _ _ _ => exact reason

end Ending

/-- No link stands at the end of a path once the folder above it is made. -/
def Unlinked (v : Volume) (p : Path) : Prop :=
  ∀ ready s target, outcome (ensureFolders p.parent) v = (.ok (), ready) →
    ready.lookup false p = .ok s → s.entry ≠ some (.link target)

theorem Unlinked.not_link {v ready : Volume} {folder : Path} {name : String} {place : Location}
    (unlinked : Unlinked v (folder.child name)) (proper : name ≠ "..")
    (made : outcome (ensureFolders folder) v = (.ok (), ready)) (there : Folder ready folder place)
    (askable : Askable (folder.child name)) (fits : name.utf8ByteSize + temporaryExtra ≤ maxName)
    (target : Path) : ready.get? (place.child (.plain name)) ≠ some (.link target) := by
  have reached := (lookup_child_iff proper).mpr
    ⟨askable, (by omega : name.utf8ByteSize ≤ maxName), place, there, rfl⟩
  rw [Unlinked, Path.parent_child] at unlinked
  exact unlinked ready _ target made reached

theorem Landing.within {v ready : Volume} {folder : Path} {name : String} {scratch place : Location}
    {bytes : ByteArray} (proper : name ≠ "..") (landing : Landing v folder name ready scratch place)
    (unlinked : Unlinked v (folder.child name)) :
    Within ready (landed ready name scratch place bytes) := by
  exact within_landed (solid_of_ne landing.free
    (unlinked.not_link proper landing.made landing.there landing.askable landing.fits))

section Landing

variable {v ready v' : Volume} {folder : Path} {name : String} {scratch place : Location} {bytes : ByteArray}

/-- A file that lands may have taken the place of a link on the way to its folder. Otherwise the folder is where
it was. -/
theorem Landing.lookup_folder (landing : Landing v folder name ready scratch place) (bytes : ByteArray) :
    Folder (landed ready name scratch place bytes) folder place ∨
      (landed ready name scratch place bytes).lookup true folder = .error .notFolder ∨
      (landed ready name scratch place bytes).lookup true folder =
        .ok ⟨place.child (.plain name), some (.file bytes)⟩ := by
  obtain ⟨askable, _, left, leads⟩ := lookup_eq_ok_iff.mp landing.there
  have file : (landed ready name scratch place bytes).get? (place.child (.plain name)) = some (.file bytes) := by
    rw [get?_landed (landing.there.isPlain.child name), if_pos rfl]
  rw [Folder, lookup_of_askable askable]
  exact walk_past_file leads (isPlain_origin folder) landing.there.get? file
    (fun l plain other => by rw [get?_landed plain, if_neg other]) landing.free

/-- If the folder of a file can still be made after the file has landed, then it is where it was. -/
theorem Landing.folder_after (landing : Landing v folder name ready scratch place)
    (made : outcome (ensureFolders folder) (landed ready name scratch place bytes) = (.ok (), v')) :
    Folder (landed ready name scratch place bytes) folder place ∧
      v' = landed ready name scratch place bytes := by
  have before := lookup_of_ensureFolders made
  have there : Folder (landed ready name scratch place bytes) folder place := by
    rcases landing.lookup_folder bytes with same | stopped | ended
    · exact same
    · simp [Folder, stopped] at before
    · simp [Folder, ended] at before
  refine ⟨there, ?_⟩
  have same := (ensureFolders_of_folder there).symm.trans made
  exact (Prod.mk.inj same).2.symm

/-- What a path through the folder of a landed file leads to, if it leads anywhere, stands in that folder. -/
theorem Landing.lookup_child {other : String} {s : Spot} {bytes' : ByteArray}
    (landing : Landing v folder name ready scratch place) (proper : other ≠ "..")
    (stands : (landed ready name scratch place bytes).get? (place.child (.plain other)) = some (.file bytes'))
    (found : (landed ready name scratch place bytes).lookup true (folder.child other) = .ok s) :
    s = ⟨place.child (.plain other), some (.file bytes')⟩ := by
  obtain ⟨askable, entry, left, leads⟩ := lookup_eq_ok_iff.mp found
  obtain ⟨middle, r, first, second⟩ := (leads_append (List.cons_ne_nil _ _)).mp leads
  have there : Folder (landed ready name scratch place bytes) folder r :=
    lookup_eq_ok_iff.mpr ⟨askable.of_child, second.folder_of_cons.symm, middle, first⟩
  obtain rfl : r = place := by
    rcases landing.lookup_folder bytes with same | stopped | ended
    · exact there.unique same
    · cases there.symm.trans stopped
    · cases there.symm.trans ended
  have fits : other.utf8ByteSize ≤ maxName := by
    generalize s.place = q at second
    cases second with
    | up _ _ => exact absurd rfl proper
    | stop _ _ fits _ => exact fits
    | follow _ _ fits _ _ _ => exact fits
    | down _ _ fits _ _ _ => exact fits
  have reached := lookup_child_through proper there askable fits (by simp [stands])
  rw [stands] at reached
  exact Except.ok.inj (found.symm.trans reached)

theorem Landing.read_child {other : String} {bytes' content : ByteArray}
    (landing : Landing v folder name ready scratch place) (proper : other ≠ "..")
    (stands : (landed ready name scratch place bytes).get? (place.child (.plain other)) = some (.file bytes'))
    (read : (landed ready name scratch place bytes).read (folder.child other) = .ok content) : content = bytes' := by
  cases found : (landed ready name scratch place bytes).lookup true (folder.child other) with
  | error fault =>
    rw [Volume.read, found] at read
    cases read
  | ok s =>
    obtain rfl := landing.lookup_child proper stands found
    rw [Volume.read, found] at read
    exact (Except.ok.inj read).symm

end Landing

theorem child_injective {place : Location} {name name' : String}
    (same : place.child (.plain name) = place.child (.plain name')) : name = name' := by
  have names : place.names ++ [Name.plain name] = place.names ++ [Name.plain name'] :=
    congrArg Location.names same
  simpa using names

/-- A second file in the same folder does not get in the way of the first, unless it takes the place of a
link. -/
theorem lookup_first {w w₁ w₂ : World} {folder p q : Path} {first second : String} {text text' : Text}
    (proper : first ≠ "..") (proper' : second ≠ "..") (differ : first ≠ second)
    (written : outcome (writeText (folder.child first) text) w = (.ok p, w₁))
    (written' : outcome (writeText (folder.child second) text') w₁ = (.ok q, w₂))
    (unlinked : Unlinked w.volume (folder.child second)) :
    ∃ place, Folder w₂.volume folder place ∧
      w₂.volume.lookup true (folder.child first) =
        .ok ⟨place.child (.plain first), some (.file (Utf8.encode text))⟩ := by
  obtain ⟨_, _, ready, scratch, place, landing, rfl⟩ := landing_of_writeText proper written
  obtain ⟨_, _, ready', scratch', place', landing', rfl⟩ := landing_of_writeText proper' written'
  obtain ⟨there, rfl⟩ := landing.folder_after landing'.made
  obtain rfl := there.unique landing'.there
  have plain := there.isPlain
  have other : place.child (.plain second) ≠ place.child (.plain first) :=
    fun same => differ (child_injective same).symm
  -- The second file takes the place of no folder and of no link, so the ways stay as they are.
  have solid : Solid (landed ready first scratch place (Utf8.encode text)) (place.child (.plain second)) := by
    refine solid_of_ne landing'.free fun target => ?_
    rw [get?_landed (plain.child second), if_neg other]
    exact unlinked.not_link proper' landing.made landing.there landing'.askable landing'.fits target
  have stays : Folder (landed (landed ready first scratch place (Utf8.encode text)) second scratch' place
      (Utf8.encode text')) folder place := there.within (within_landed solid)
  have file : (landed (landed ready first scratch place (Utf8.encode text)) second scratch' place
      (Utf8.encode text')).get? (place.child (.plain first)) = some (.file (Utf8.encode text)) := by
    rw [get?_landed (plain.child first), if_neg other.symm, get?_landed (plain.child first), if_pos rfl]
  have fits := landing.fits
  refine ⟨place, stays, ?_⟩
  rw [lookup_child_through proper stays landing.askable (by omega) (by simp [file]), file]

end SiteSurvey.Artifact
