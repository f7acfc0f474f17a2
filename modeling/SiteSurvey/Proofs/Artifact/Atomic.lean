import SiteSurvey.Proofs.Artifact.Landing
import SiteSurvey.Proofs.Volume.Seen

set_option autoImplicit false

namespace SiteSurvey.Artifact

open Volume

section Ending

variable {v v' : Volume} {p : Path} {content : Text} {system : System} {r : Except Failure Path}

theorem ne_temporary_of_fresh {ready : Volume} {l scratch : Location} {stem : String} (fresh : Fresh ready)
    (present : ready.get? l ≠ none) : l ≠ scratch.child (.temporary stem ready.serial) := by
  rintro rfl
  exact present (fresh scratch stem ready.serial (Nat.le_refl _))

theorem grown_of_made {ready : Volume} (made : outcome (ensureFolders p.parent system) v = (.ok (), ready)) :
    Grown v ready := by
  have grown := grown_ensureFolders v p.parent system
  rw [made] at grown
  exact grown

theorem Ending.kept {f : Failure} (ending : Ending v p content system (.error f) v') (fresh : Fresh v)
    {l : Location} {e : Entry} (found : v.get? l = some e) : v'.get? l = some e := by
  cases ending with
  | unbegun _ => exact (grown_ensureFolders v p.parent system).get?_of_some found
  | abandoned _ made _ _ others =>
    have grown := grown_of_made made
    have stays := grown.get?_of_some found
    rw [others l (ne_temporary_of_fresh (fresh.grown grown) (by simp [stays])), stays]

/-- A path that led to nothing still does after a write to it that fails, if it only goes down from what was
there. -/
theorem Ending.absent {f : Failure} {through : Bool} (ending : Ending v p content system (.error f) v')
    (rooted : Rooted v) (forward : Forward v p) (absent : v.seen through p = none) :
    v'.seen through p = none := by
  have nothing := seen_ensureFolders rooted forward absent system
  cases ending with
  | unbegun _ => exact nothing
  | abandoned _ made _ _ others =>
    rw [made] at nothing
    rw [seen_of_same fun l plain => others l (ne_temporary_of_isPlain plain _ _ _), nothing]

/-- What comes of a write that succeeds: the file stands where the path led once the folders above it were
there, and everything else stands where it stood. -/
theorem Ending.replaced {answer : Path} (ending : Ending v p content system (.ok answer) v') (fresh : Fresh v) :
    answer = p ∧ content.hasSurrogate = false ∧ ∃ ready place entry,
      Grown v ready ∧ ready.lookup false p = .ok ⟨place, entry⟩ ∧
      v'.get? place = some (.file (Utf8.encode content)) ∧
      (∀ l e, l ≠ place → v.get? l = some e → v'.get? l = some e) ∧
      ((∀ target, v.get? place ≠ some (.link target)) → v'.read p = .ok (Utf8.encode content)) := by
  cases ending with
  | @landed ready scratch s whole made room _ found free =>
    have grown := grown_of_made made
    -- No path leads to the temporary file, so the path leads where it led before there was one.
    have before : ready.lookup false p = .ok s := lookup_of_same (fun l plain => get?_drafted plain) found
    obtain ⟨askable, entry, left, leads⟩ := lookup_eq_ok_iff.mp before
    have named : s.place.names ≠ [] := names_ne_nil_of_get?_ne_folder (entry ▸ free)
    have file : (settled ready p.name scratch s.place (Utf8.encode content)).get? s.place =
        some (.file (Utf8.encode content)) := get?_put_self named
    refine ⟨rfl, whole, ready, s.place, s.entry, grown, before, file, ?_, ?_⟩
    · intro l e other found
      have stays := grown.get?_of_some found
      have present : ready.get? l ≠ none := by simp [stays]
      rw [get?_settled_of_ne named (ne_temporary_of_fresh (fresh.grown grown) present), if_neg other, stays]
    · intro unlinked
      -- What stood at the place was neither a folder nor a link, so no way can have gone through it.
      have solid : Solid ready s.place := by
        refine solid_of_ne (entry ▸ free) fun target link => unlinked target ?_
        rcases grown.get? s.place with stays | ⟨_, _, folder⟩
        · rw [← stays, link]
        · cases folder.symm.trans link
      have within : Within ready (settled ready p.name scratch s.place (Utf8.encode content)) :=
        within_settled named solid
      have reached := (leads.within within (isPlain_origin p) (by simp)).passing (by simp [file])
      have back : (settled ready p.name scratch s.place (Utf8.encode content)).lookup true p =
          .ok ⟨s.place, some (.file (Utf8.encode content))⟩ :=
        lookup_eq_ok_iff.mpr ⟨askable, file.symm, left, reached⟩
      rw [Volume.read, back]

end Ending

/-- Whatever the system refuses, a write leaves the old or the new at the end of a path, and everything else as
it stood. If it succeeds, the whole text stands where the path led once the folders above were there, and is
read back through the path unless a link gave way to it. If it fails, the path leads to what it led to before,
except that a path that goes up again from a folder that was missing may lead somewhere once the folder is
made. -/
theorem writeText_old_or_new (p : Path) (content : Text) (system : System) {w : World} (sound : Sound w.volume) :
    match outcome (writeText p content system) w with
    | (.ok answer, w') =>
        answer = p ∧ content.hasSurrogate = false ∧ ∃ ready place entry,
          Grown w.volume ready ∧ ready.lookup false p = .ok ⟨place, entry⟩ ∧
          w'.volume.get? place = some (.file (Utf8.encode content)) ∧
          (∀ l e, l ≠ place → w.volume.get? l = some e → w'.volume.get? l = some e) ∧
          ((∀ target, w.volume.get? place ≠ some (.link target)) →
            w'.volume.read p = .ok (Utf8.encode content))
    | (.error _, w') =>
        (∀ l e, w.volume.get? l = some e → w'.volume.get? l = some e) ∧
          ∀ through, (w.volume.seen through p).isSome ∨ Forward w.volume p →
            w'.volume.seen through p = w.volume.seen through p := by
  obtain ⟨r, v', ended, ending⟩ := writeText_ends p content system w
  rw [ended]
  cases r with
  | ok answer => exact ending.replaced sound.fresh
  | error f =>
    have kept : ∀ l e, w.volume.get? l = some e → v'.get? l = some e := fun l e => ending.kept sound.fresh
    refine ⟨kept, fun through before => ?_⟩
    cases there : w.volume.seen through p with
    | some e => exact seen_of_kept sound.isRooted (fun l e _ => kept l e) there
    | none =>
      have forward := before.resolve_left (by simp [there])
      exact ending.absent sound.isRooted forward there

section Samples

def blankWorld : World :=
  { volume := .empty, clock := .ofSeconds 0, notices := [] }

def shortPath : Path := Path.child ⟨.relative, []⟩ "a"

def roundaboutPath : Path := ⟨.relative, ["a", "..", "a"]⟩

theorem sound_empty : Sound Volume.empty :=
  ⟨by decide, by simp [Volume.empty], by simp [Volume.empty], by simp [Volume.empty], by simp [Volume.empty]⟩

theorem folder_start (v : Volume) : Folder v ⟨.relative, []⟩ .start :=
  lookup_eq_ok_iff.mpr ⟨by unfold Askable; decide, rfl, _, .here⟩

theorem landing_blank : Landing Volume.empty ⟨.relative, []⟩ "a" Volume.empty .start .start where
  made := ensureFolders_of_folder (folder_start _)
  room := folder_start _
  fits := by decide
  askable := by unfold Askable; decide
  there := folder_start _
  free := by simp [get?, Volume.empty, Location.child, Location.start]

-- Half of a character, which has no encoding.
def brokenText : Text := [⟨0xD83D, by decide⟩]

theorem get?_empty_ne_link (l : Location) (target : Path) : Volume.empty.get? l ≠ some (.link target) := by
  simp only [get?, Volume.empty]
  split <;> simp

-- On an empty volume a text is read back that has an encoding, and nothing stands at the path of one that has none.
theorem writeText_blank :
    (∃ w', outcome (writeText shortPath (Text.ofString "x")) blankWorld = (.ok shortPath, w') ∧
      w'.volume.read shortPath = .ok (Utf8.encode (Text.ofString "x"))) ∧
    ∃ f w', outcome (writeText shortPath brokenText) blankWorld = (.error f, w') ∧
      w'.volume.seen true shortPath = none := by
  constructor
  · have whole : (Text.ofString "x").hasSurrogate = false := by decide
    have written := outcome_writeText (w := blankWorld) (by decide) landing_blank whole
    have ends := writeText_old_or_new (Path.child ⟨.relative, []⟩ "a") (Text.ofString "x") .willing
      (w := blankWorld) sound_empty
    rw [written] at ends
    obtain ⟨_, _, _, place, _, _, _, _, _, back⟩ := ends
    exact ⟨_, written, back (get?_empty_ne_link place)⟩
  · have half : brokenText.hasSurrogate = true := by decide
    obtain ⟨message, failed⟩ := outcome_writeText_surrogate (w := blankWorld) landing_blank half
    have ends := writeText_old_or_new (Path.child ⟨.relative, []⟩ "a") brokenText .willing (w := blankWorld)
      sound_empty
    rw [failed] at ends
    have forward : Forward Volume.empty shortPath := ⟨[], ["a"], rfl, by decide, .start, folder_start _⟩
    have before : Volume.empty.lookup true shortPath = .ok ⟨Location.start.child (.plain "a"), none⟩ :=
      lookup_eq_ok_iff.mpr ⟨by unfold Askable; decide, rfl, _, .stop rfl (by decide) (by decide) (.inl rfl)⟩
    refine ⟨_, _, failed, (ends.2 true (.inr forward)).trans ?_⟩
    exact seen_eq_none_iff.mpr fun place e found => by cases before.symm.trans found

-- The volume once the folder is made that the roundabout path begins with.
def halfwayVolume : Volume := Volume.empty.put (Location.start.child (.plain "a")) .folder

theorem ensureFolders_roundabout :
    outcome (ensureFolders roundaboutPath.parent) Volume.empty = (.ok (), halfwayVolume) := by
  have missing : Volume.empty.lookup false ⟨.relative, ["a", ".."]⟩ = .error .missing := by
    rw [lookup_of_askable (by unfold Askable; decide)]
    exact walk_absent rfl (by decide) (by decide) rfl
  have free : Volume.empty.lookup false ⟨.relative, ["a"]⟩ = .ok ⟨Location.start.child (.plain "a"), none⟩ :=
    lookup_eq_ok_iff.mpr ⟨by unfold Askable; decide, rfl, _, .stop rfl (by decide) (by decide) (.inl rfl)⟩
  have back : Folder halfwayVolume ⟨.relative, ["a", ".."]⟩ .start :=
    lookup_eq_ok_iff.mpr ⟨by unfold Askable; decide, rfl, _,
      .down rfl (by decide) (by decide) rfl rfl (.up rfl .here)⟩
  have above : outcome (ensureFolders ⟨.relative, ["a"]⟩) Volume.empty = (.ok (), halfwayVolume) := by
    rw [outcome_ensureFolders, outcome_ensureFolder, free]
    rfl
  have first : outcome (ensureFolder ⟨.relative, ["a", ".."]⟩) Volume.empty =
      (.error (.at_ .missing "a/.."), Volume.empty) := by
    rw [outcome_ensureFolder, missing]
    rfl
  change outcome (ensureFolders ⟨.relative, ["a", ".."]⟩) Volume.empty = _
  rw [outcome_ensureFolders, first]
  exact (outcome_bind_ok above).trans (ensureFolder_of_folder back)

theorem seen_roundabout : halfwayVolume.seen false roundaboutPath = some .folder :=
  seen_eq_some_iff.mpr ⟨Location.start.child (.plain "a"), lookup_eq_ok_iff.mpr ⟨by unfold Askable; decide, rfl, _,
    .down rfl (by decide) (by decide) rfl rfl (.up rfl (.down rfl (by decide) (by decide) rfl rfl .here))⟩⟩

theorem unseen_roundabout : Volume.empty.seen false roundaboutPath = none := by
  have missing : Volume.empty.lookup false roundaboutPath = .error .missing := by
    rw [lookup_of_askable (by unfold Askable; decide)]
    exact walk_absent rfl (by decide) (by decide) rfl
  rw [seen, missing]

-- A volume with a link to the folder that it stands in.
def selfLinkedWorld : World where
  volume := { entries := [(Location.start.child (.plain "l"), .link ⟨.relative, []⟩)], serial := 0 }
  clock := .ofSeconds 0
  notices := []

theorem landing_selfLinked :
    Landing selfLinkedWorld.volume ⟨.relative, ["l"]⟩ "l" selfLinkedWorld.volume .start .start := by
  have there : Folder selfLinkedWorld.volume ⟨.relative, ["l"]⟩ .start :=
    lookup_eq_ok_iff.mpr ⟨by unfold Askable; decide, rfl, _,
      .follow rfl (by decide) (by decide) rfl (.inr rfl) .here⟩
  exact ⟨ensureFolders_of_folder there, there, by decide, by unfold Askable; decide, there, by rintro ⟨⟩⟩

theorem read_selfLinked (bytes : ByteArray) :
    (landed selfLinkedWorld.volume "l" .start .start bytes).read (Path.child ⟨.relative, ["l"]⟩ "l") =
      .error .notFolder := by
  -- A file stands where the path goes on.
  have file : (landed selfLinkedWorld.volume "l" .start .start bytes).get? (Location.start.child (.plain "l")) =
      some (.file bytes) := by
    rw [get?_landed (Location.isPlain_start.child "l"), if_pos rfl]
  have stopped : (landed selfLinkedWorld.volume "l" .start .start bytes).lookup true
      (Path.child ⟨.relative, ["l"]⟩ "l") = .error .notFolder := by
    rw [lookup_of_askable (by unfold Askable; decide)]
    exact (walk_down rfl (by decide) (by decide) file rfl).trans (walk_blocked _ file rfl)
  rw [Volume.read, stopped]

/-- Neither the old nor the new: a write that fails has made the folder that its path names, and a write that
succeeds has taken away the link that its path goes through. -/
theorem writeText_neither_old_nor_new :
    (∃ f w', outcome (writeText roundaboutPath (Text.ofString "x")) blankWorld = (.error f, w') ∧
      blankWorld.volume.seen false roundaboutPath = none ∧
      w'.volume.seen false roundaboutPath = some .folder) ∧
    ∃ w', outcome (writeText (Path.child ⟨.relative, ["l"]⟩ "l") (Text.ofString "x")) selfLinkedWorld =
        (.ok (Path.child ⟨.relative, ["l"]⟩ "l"), w') ∧
      w'.volume.read (Path.child ⟨.relative, ["l"]⟩ "l") = .error .notFolder := by
  constructor
  · obtain ⟨r, v', ended, ending⟩ := writeText_ends roundaboutPath (Text.ofString "x") .willing blankWorld
    have made : outcome (ensureFolders roundaboutPath.parent .willing) blankWorld.volume = (.ok (), halfwayVolume) :=
      ensureFolders_roundabout
    cases ending with
    | unbegun _ =>
      refine ⟨_, _, ended, unseen_roundabout, ?_⟩
      rw [made]
      exact seen_roundabout
    | abandoned _ made' _ _ others =>
      obtain rfl := (Prod.mk.inj (made.symm.trans made')).2
      refine ⟨_, _, ended, unseen_roundabout, ?_⟩
      rw [seen_of_same fun l plain => others l (ne_temporary_of_isPlain plain _ _ _), seen_roundabout]
    | landed _ made' _ _ found free =>
      obtain rfl := (Prod.mk.inj (made.symm.trans made')).2
      have before := lookup_of_same (fun l plain => get?_drafted plain) found
      have folder := seen_roundabout
      rw [seen, before] at folder
      exact absurd folder free
  · exact ⟨_, outcome_writeText (w := selfLinkedWorld) (by decide) landing_selfLinked (by decide), read_selfLinked _⟩

end Samples

end SiteSurvey.Artifact
