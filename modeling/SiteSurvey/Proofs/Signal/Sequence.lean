import SiteSurvey.Proofs.Artifact.Atomic
import SiteSurvey.Proofs.Artifact.Batch
import SiteSurvey.Proofs.Artifact.Search
import SiteSurvey.Proofs.Signal.Report

set_option autoImplicit false

namespace SiteSurvey

open Volume

namespace Volume

/-- What a volume keeps while files are added to it: everything but links stays as it is, and no path gets further
than before. -/
structure Adds (v v' : Volume) : Prop where
  kept : ∀ l e, v.get? l = some e → e.isLink = false → v'.get? l = some e
  ways : Within v' v

theorem Adds.refl (v : Volume) : Adds v v :=
  ⟨fun _ _ found _ => found, fun _ _ _ found _ => found⟩

/-- Wherever the folder of a path is, a file stands there under its name. -/
def Held (v : Volume) (p : Path) : Prop :=
  ∀ place, Folder v p.parent place → ∃ bytes, v.get? (place.child (.plain p.name)) = some (.file bytes)

theorem Held.adds {v v' : Volume} {p : Path} (held : Held v p) (adds : Adds v v') : Held v' p := by
  intro place there
  obtain ⟨bytes, file⟩ := held place (there.within adds.ways)
  exact ⟨bytes, adds.kept _ _ file rfl⟩

theorem folder_of_isFile {v : Volume} {p : Path} (file : v.isFile p = .ok true) : ∃ place, Folder v p.parent place := by
  rw [isFile, holds] at file
  split at file
  · rename_i e found
    obtain ⟨askable, entry, left, leads⟩ := lookup_eq_ok_iff.mp found
    rcases List.eq_nil_or_concat p.names with empty | ⟨names, last, named⟩
    · -- A path without names leads to a folder and to no file.
      cases entry_of_start empty found
      cases file
    · rw [List.concat_eq_append] at named
      have shape : p = Path.child ⟨p.anchor, names⟩ last := by rw [Path.child, ← named]
      rw [shape] at askable leads ⊢
      rw [Path.parent_child]
      obtain ⟨middle, place, first, second⟩ := (leads_append (List.cons_ne_nil last [])).mp leads
      exact ⟨place, lookup_eq_ok_iff.mpr ⟨askable.of_child, second.folder_of_cons.symm, middle, first⟩⟩
  · cases file
  · split at file <;> cases file

end Volume

namespace Artifact

theorem temporary_ne_of_later {l l' : Location} {stem stem' : String} {serial number : Nat}
    (late : serial + 1 ≤ number) : l.child (.temporary stem number) ≠ l'.child (.temporary stem' serial) := by
  intro same
  have last := congrArg (fun l => l.names.getLast?) same
  simp only [Location.child, List.getLast?_concat, Option.some.injEq, Name.temporary.injEq] at last
  omega

variable {v v' : Volume} {p : Path} {content : Text} {system : System} {r : Except Failure Path}

theorem Ending.fresh (ending : Ending v p content system r v') (fresh : Fresh v) : Fresh v' := by
  have grown := grown_ensureFolders v p.parent system
  have ready := fresh.grown grown
  cases ending with
  | unbegun _ => exact ready
  | abandoned _ made _ serial others =>
    rw [made] at ready
    intro l stem number late
    rw [serial] at late
    rw [others _ (temporary_ne_of_later late)]
    exact ready l stem number (Nat.le_of_succ_le late)
  | @landed _ _ s _ made _ _ found free =>
    rw [made] at ready
    obtain ⟨_, entry, _, leads⟩ := lookup_eq_ok_iff.mp found
    have plain := leads.isPlain (isPlain_origin p)
    have named : s.place.names ≠ [] := names_ne_nil_of_get?_ne_folder (entry ▸ free)
    intro l stem number late
    rw [get?_settled_of_ne named (temporary_ne_of_later late),
      if_neg (ne_temporary_of_isPlain plain l stem number).symm]
    exact ready l stem number (Nat.le_of_succ_le late)

end Artifact

namespace Signal

open Artifact

section Call

variable {w w' : World} {report path : Path} {place : Location} {signals : List Signal} {total : Nat}

theorem adds_of_failed {p : Path} {content : Text} {f : Failure} {v v' : Volume} (fresh : Fresh v)
    (there : Folder v p.parent place) (ending : Ending v p content .willing (.error f) v') : Adds v v' := by
  have made := ensureFolders_of_folder there
  refine ⟨fun l e found _ => ending.kept fresh found, fun l plain e found _ => ?_⟩
  cases ending with
  | unbegun _ =>
    rw [made] at found
    exact found
  | abandoned _ made' _ _ others =>
    obtain rfl := (Prod.mk.inj (made.symm.trans made')).2
    rw [← others l (ne_temporary_of_isPlain plain _ _ _)]
    exact found

theorem adds_of_landed {v : Volume} {folder : Path} {name : String} {scratch : Location} {bytes : ByteArray}
    (fresh : Fresh v) (proper : name ≠ "..") (landing : Landing v folder name v scratch place)
    (free : v.isPresent (folder.child name) = .ok false) : Adds v (landed v name scratch place bytes) := by
  refine ⟨fun l e found noLink => ?_, fun l plain e found way => ?_⟩
  · -- The path leads to nothing, so only a link without a target can stand at the place of the file.
    rw [get?_landed_of_fresh fresh, if_neg, found]
    rintro rfl
    have fits := landing.fits
    have present := isPresent_child landing.there proper (by omega) landing.askable fun target link => by
      cases found.symm.trans link
      cases noLink
    rw [free, found] at present
    cases present
  · rw [get?_landed plain] at found
    split at found
    · cases found
      cases way
    · exact found

theorem held_landed {v : Volume} {folder : Path} {name : String} {scratch : Location} {bytes : ByteArray}
    (landing : Landing v folder name v scratch place)
    (adds : Adds v (landed v name scratch place bytes)) :
    Held (landed v name scratch place bytes) (folder.child name) := by
  intro place' there
  rw [Path.parent_child] at there
  obtain rfl := (there.within adds.ways).unique landing.there
  exact ⟨bytes, (get?_landed (landing.there.isPlain.child _)).trans (if_pos (by rw [Path.name_child]))⟩

theorem not_held_of_landing {v ready : Volume} {folder : Path} {name : String} {scratch : Location}
    (proper : name ≠ "..") (landing : Landing v folder name ready scratch place)
    (free : ready.isPresent (folder.child name) = .ok false) : ¬Held ready (folder.child name) := by
  intro held
  rw [Held, Path.parent_child, Path.name_child] at held
  obtain ⟨bytes, file⟩ := held place landing.there
  have fits := landing.fits
  have present := isPresent_child landing.there proper (by omega) landing.askable (by simp [file])
  rw [free, file] at present
  cases present

/-- What a triage does, whether or not it succeeds. If it does, its answer is a path at which nothing was to be
found, and where the path leads a file stands from then on. -/
structure Triaged (w : World) (r : Except Failure Path) (w' : World) : Prop where
  adds : Adds w.volume w'.volume
  fresh : Fresh w'.volume
  answers : ∀ path, r = .ok path →
    w.volume.isPresent path = .ok false ∧ ¬Held w.volume path ∧ Held w'.volume path

theorem Triaged.of_error {f : Failure} (adds : Adds w.volume w'.volume) (fresh : Fresh w'.volume) :
    Triaged w (.error f) w' :=
  ⟨adds, fresh, fun _ answer => by cases answer⟩

theorem triaged_save (report : Path) (signals : List Signal) (total : Nat) (w : World) (fresh : Fresh w.volume)
    (there : Folder w.volume report.parent place) :
    Triaged w (outcome (save report signals total) w).1 (outcome (save report signals total) w).2 := by
  rw [save]
  -- Only a search that ends at a free name goes on to the write, and the write goes to the folder that is there.
  obtain ⟨count, _, _, ⟨free, searched⟩ | ⟨fault, _, searched⟩⟩ := uniquePath_ends report.parent fileStart ".json" w
  · rw [outcome_bind_ok searched]
    rw [candidate_eq_child _ _ _ _ _ (by decide) (by decide)] at free ⊢
    have proper := candidateName_proper fileStart ".json" w.clock count
    generalize candidateName fileStart ".json" w.clock count = name at free proper ⊢
    obtain ⟨r, v', ended, ending⟩ := writeText_ends (report.parent.child name)
      (Json.print .report (.array (signals.map toJson))) .willing w
    rw [writeJson_signals]
    cases r with
    | error f =>
      rw [outcome_bind_error ended]
      rw [← Path.parent_child report.parent name] at there
      exact .of_error (adds_of_failed fresh there ending) (ending.fresh fresh)
    | ok answer =>
      rw [outcome_bind_ok ended, outcome_bind_ok (Survey.outcome_note _ _ _ _)]
      obtain ⟨_, rfl, ready, scratch, place', landing, after⟩ := landing_of_writeText proper ended
      obtain rfl := (Prod.mk.inj ((ensureFolders_of_folder there).symm.trans landing.made)).2
      obtain rfl := congrArg World.volume after
      have adds : Adds w.volume (landed w.volume name scratch place'
          (Utf8.encode (Json.print .report (.array (signals.map toJson))))) :=
        adds_of_landed fresh proper landing free
      refine ⟨adds, ending.fresh fresh, fun path answer => ?_⟩
      cases answer
      exact ⟨free, not_held_of_landing proper landing free, held_landed landing adds⟩
  · rw [outcome_bind_error searched]
    exact .of_error (.refl _) fresh

theorem triaged_extract (report : Path) (w : World) (fresh : Fresh w.volume) :
    Triaged w (outcome (extract report) w).1 (outcome (extract report) w).2 := by
  rcases extract_cases report w with ⟨f, failed⟩ | ⟨file, signals, total, saved⟩
  · rw [failed]
    exact .of_error (.refl _) fresh
  · obtain ⟨place, there⟩ := folder_of_isFile file
    rw [saved]
    exact triaged_save report signals total w fresh there

end Call

/-- A triage that is asked for, and the time that the clock shows by then. -/
structure Call where
  report : Path
  clock : Moment

structure Made where
  before : World
  answer : Except Failure Path
  after : World

def triages (w : World) : List Call → List Made
  | [] => []
  | call :: calls =>
      let before := { w with clock := call.clock }
      let ended := outcome (extract call.report) before
      ⟨before, ended.1, ended.2⟩ :: triages ended.2 calls

def answered (made : List Made) : List Path :=
  made.filterMap fun m => m.answer.toOption

section Calls

variable {w : World} {calls : List Call}

theorem triaged_of_mem (fresh : Fresh w.volume) {m : Made} (inside : m ∈ triages w calls) :
    Triaged m.before m.answer m.after := by
  induction calls generalizing w with
  | nil => cases inside
  | cons call calls ih =>
    have first := triaged_extract call.report { w with clock := call.clock } fresh
    rcases List.mem_cons.mp inside with rfl | later
    · exact first
    · exact ih first.fresh later

theorem mem_answered_cons {m : Made} {made : List Made} {p : Path} :
    p ∈ answered (m :: made) ↔ m.answer = .ok p ∨ p ∈ answered made := by
  unfold answered
  cases answer : m.answer with
  | error f => simp [answer, Except.toOption]
  | ok q => simp [answer, Except.toOption, eq_comm]

theorem not_answered_of_held (fresh : Fresh w.volume) {p : Path} (held : Held w.volume p) :
    p ∉ answered (triages w calls) := by
  induction calls generalizing w with
  | nil => simp [triages, answered]
  | cons call calls ih =>
    have first := triaged_extract call.report { w with clock := call.clock } fresh
    rw [triages, mem_answered_cons, not_or]
    exact ⟨fun answer => (first.answers p answer).2.1 held, ih first.fresh (held.adds first.adds)⟩

theorem nodup_answered (fresh : Fresh w.volume) : (answered (triages w calls)).Nodup := by
  induction calls generalizing w with
  | nil => exact List.nodup_nil
  | cons call calls ih =>
    have first := triaged_extract call.report { w with clock := call.clock } fresh
    have later := ih first.fresh
    -- The path that is answered here is held from now on, so that none of the later searches ends at it.
    rw [triages, answered, List.filterMap_cons]
    split
    · exact later
    · rename_i p answer
      have here : (outcome (extract call.report) { w with clock := call.clock }).1 = .ok p := by
        cases ended : (outcome (extract call.report) { w with clock := call.clock }).1 with
        | error f => simp [ended, Except.toOption] at answer
        | ok q =>
          simp only [ended, Except.toOption, Option.some.injEq] at answer
          rw [answer]
      exact List.nodup_cons.mpr ⟨not_answered_of_held first.fresh (first.answers p here).2.2, later⟩

end Calls

/-- Triages never get in each other's way, whatever the clock shows and whatever is there already, as long as
temporary files get names of their own: the path that one answers led to nothing before, no path is answered twice,
and everything that a triage finds stays as it is, but that a link without a target may give way. The search for a
name ends on every volume. -/
theorem triages_never_overwrite (w : World) (fresh : Fresh w.volume) (calls : List Call) :
    (∀ m ∈ triages w calls,
      (∀ path, m.answer = .ok path → m.before.volume.isPresent path = .ok false) ∧
      ∀ l e, m.before.volume.get? l = some e → e.isLink = false → m.after.volume.get? l = some e) ∧
    (answered (triages w calls)).Nodup ∧
    ∀ (folder : Path) (opening ending : String) (w : World), ∃ count ≤ w.volume.entries.length,
      (∀ j < count, w.volume.isPresent (candidate folder opening ending w.clock j) = .ok true) ∧
      ((w.volume.isPresent (candidate folder opening ending w.clock count) = .ok false ∧
        outcome (uniquePath folder opening ending) w = (.ok (candidate folder opening ending w.clock count), w)) ∨
      ∃ fault, w.volume.isPresent (candidate folder opening ending w.clock count) = .error fault ∧
        outcome (uniquePath folder opening ending) w =
          (.error (.ofTrouble (.at_ fault (candidate folder opening ending w.clock count).toString)), w)) := by
  refine ⟨fun m inside => ?_, nodup_answered fresh, uniquePath_ends⟩
  have triaged := triaged_of_mem fresh inside
  exact ⟨fun path answer => (triaged.answers path answer).1, triaged.adds.kept⟩

section Sample

def emptyReport : ByteArray :=
  Utf8.encode (Json.print .report (.array []))

-- A volume with a report without records.
def reportWorld : World where
  volume := ⟨[(Location.start.child (.plain "m.json"), .file emptyReport)], 0⟩
  clock := .ofSeconds 0
  notices := []

def sampleCall : Call :=
  ⟨Path.child ⟨.relative, []⟩ "m.json", .ofSeconds 0⟩

theorem short_start : ∀ j ≤ 10, Short ⟨.relative, []⟩ fileStart ".json" (.ofSeconds 0) j := by
  intro j few
  exact short_of_few (by omega) (by decide) (by decide) (by decide) (by decide) (by decide)

theorem extract_start {w : World} (time : w.clock = .ofSeconds 0) (few : w.volume.entries.length ≤ 10)
    (stands : w.volume.get? (Location.start.child (.plain "m.json")) = some (.file emptyReport))
    (solid : ∀ name, Solid w.volume (Location.start.child (.plain name))) :
    ∃ name notices, 'Z' ∈ name.toList ∧ outcome (extract sampleCall.report) w =
      (.ok (Path.child ⟨.relative, []⟩ name),
        { w with volume := landed w.volume name .start .start emptyReport, notices }) := by
  have there : Folder w.volume ⟨.relative, []⟩ .start := folder_start _
  have vacant : Vacant w.volume ⟨.relative, []⟩ .start fileStart ".json" (.ofSeconds 0) := fun j taken =>
    ⟨short_start j (Nat.le_trans (le_length_of_taken taken) few), (solid _).not_link⟩
  obtain ⟨count, next, _⟩ := vacant.next there fun _ => rfl
  rw [← time] at next
  have found : w.volume.lookup true sampleCall.report =
      .ok ⟨Location.start.child (.plain "m.json"), some (.file emptyReport)⟩ := by
    rw [← stands]
    exact lookup_child_through (by decide) there (by unfold Askable; decide) (by decide) (solid _).not_link
  have readable : (Json.print .report (.array [])).hasSurrogate = false := by decide
  obtain ⟨total, extracted⟩ : ∃ total, outcome (extract sampleCall.report) w =
      outcome (save sampleCall.report (ofScan []) total) w := outcome_extract found readable
  have written := outcome_writeText (candidateName_proper _ _ _ _) (next.landing ⟨there, there⟩) readable
  have searched : outcome (uniquePath sampleCall.report.parent fileStart ".json") w = _ :=
    outcome_uniquePath_ok (by decide) (by decide) next
  have saved : ∃ notices, outcome (save sampleCall.report (ofScan []) total) w =
      (.ok (Path.child ⟨.relative, []⟩ (candidateName fileStart ".json" w.clock count)),
        { w with
          volume := landed w.volume (candidateName fileStart ".json" w.clock count) .start .start emptyReport
          notices }) := by
    rw [save, outcome_bind_ok searched]
    exact ⟨_, outcome_bind_ok written⟩
  obtain ⟨notices, saved⟩ := saved
  exact ⟨_, notices, mem_candidateName fileStart ".json" w.clock count, extracted.trans saved⟩

-- Two triages of one report in the same instant give two files.
theorem triages_at_once : Fresh reportWorld.volume ∧
    ∃ p q, answered (triages reportWorld [sampleCall, sampleCall]) = [p, q] ∧ p ≠ q := by
  have single : ∀ l e, l.names ≠ [] → reportWorld.volume.get? l = some e →
      l = Location.start.child (.plain "m.json") ∧ e = .file emptyReport := by
    intro l e named found
    have inside := mem_of_get? found named
    simpa [reportWorld] using inside
  have solid : ∀ name, Solid reportWorld.volume (Location.start.child (.plain name)) := by
    intro name e found
    obtain ⟨_, rfl⟩ := single _ e (child_names_ne_nil _ _) found
    rfl
  have fresh : Fresh reportWorld.volume := by
    intro l stem serial _
    cases found : reportWorld.volume.get? (l.child (.temporary stem serial)) with
    | none => rfl
    | some e =>
      obtain ⟨same, _⟩ := single _ e (child_names_ne_nil _ _) found
      exact absurd same (temporary_ne_plain _ _ _ _ _)
  obtain ⟨name, notices, letter, first⟩ := extract_start (w := reportWorld) rfl (by decide) rfl solid
  have other : Location.start.child (.plain "m.json") ≠ Location.start.child (.plain name) := by
    intro same
    rw [← child_injective same] at letter
    exact absurd letter (by decide)
  have plain := fun name => Location.isPlain_start.child name
  obtain ⟨name', notices', _, second⟩ := extract_start
    (w := ⟨landed reportWorld.volume name .start .start emptyReport, .ofSeconds 0, notices⟩) rfl
    (Nat.le_trans (length_landed_le _ _ _ _ _) (by decide))
    (by rw [get?_landed (plain _), if_neg other]; rfl) fun name => solid_landed (plain name) (solid name) _
  have both : answered (triages reportWorld [sampleCall, sampleCall]) =
      [Path.child ⟨.relative, []⟩ name, Path.child ⟨.relative, []⟩ name'] := by
    have first : outcome (extract sampleCall.report) { reportWorld with clock := sampleCall.clock } = _ := first
    have second : outcome (extract sampleCall.report)
      ⟨landed reportWorld.volume name .start .start emptyReport, sampleCall.clock, notices⟩ = _ := second
    simp only [triages, answered, List.filterMap_cons, List.filterMap_nil, first, second, Except.toOption]
  have distinct := (triages_never_overwrite reportWorld fresh [sampleCall, sampleCall]).2.1
  rw [both] at distinct
  exact ⟨fresh, _, _, both, by simpa using distinct⟩

end Sample

end Signal

end SiteSurvey
