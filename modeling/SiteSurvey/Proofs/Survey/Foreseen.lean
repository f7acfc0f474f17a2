import SiteSurvey.Proofs.Signal.Relevant
import SiteSurvey.Proofs.Survey.Tame

set_option autoImplicit false

namespace SiteSurvey

namespace Site

theorem hostname_eq_error {site : String} {f : Failure} (failed : hostname site = .error f) :
    (∃ message, f = .badValue message) ∨ ∃ message, f = .invalidInput message := by
  unfold hostname at failed
  dsimp only at failed
  split at failed
  · cases failed
    exact .inl ⟨_, rfl⟩
  · split at failed
    · cases failed
    · cases failed
      exact .inr ⟨_, rfl⟩

/-- A site whose address, if it is given by one, can be read. -/
def HasAddress (site : String) : Prop :=
  ∀ message, hostname site ≠ .error (.badValue message)

theorem HasAddress.foreseen {site : String} {f : Failure} (address : HasAddress site)
    (failed : hostname site = .error f) : f.isForeseen = true := by
  rcases hostname_eq_error failed with ⟨message, rfl⟩ | ⟨message, rfl⟩
  · exact absurd failed (address message)
  · rfl

end Site

namespace Source

open Volume

theorem collectIn_foreseen {v : Volume} {root : Path} {extensions : List String} {f : Failure}
    (failed : collectIn v root extensions = .error f) : f.isForeseen = true := by
  cases answer : v.isFolder root with
  | error fault =>
    rw [collectIn, answer] at failed
    cases failed
    exact Failure.isForeseen_of_holds answer
  | ok isFolder =>
    cases isFolder with
    | false =>
      rw [collectIn, answer] at failed
      cases failed
      rfl
    | true =>
      obtain ⟨place, there⟩ := isFolder_eq_true_iff.mp answer
      rw [collectIn_of_folder extensions there] at failed
      rcases search_cases v root place (extensions.map Text.lowerString) with ⟨p, _, far⟩ | ⟨_, done⟩
      · cases far.symm.trans failed
        rfl
      · cases done.symm.trans failed

theorem regular_of_collectIn {u v : Volume} {root p : Path} {extensions : List String} {paths : List Path}
    (nullFree : NullFree u) (collected : collectIn u root extensions = .ok paths) (found : p ∈ paths) :
    Regular v (some root) p := by
  obtain ⟨place, there⟩ := folder_of_collectIn collected
  exact regular_of_mem_below nullFree there (mem_below_of_collectIn there collected found)

end Source

namespace Detector.Plugin

/-- A file whose pattern, if it is given as a text, keeps within bounds and does not ask for flags that exclude
each other. -/
def Sober (p : Plugin) : Prop :=
  ∀ offer source problem, p.offer = some offer → offer.outcome = .ok (.text source) →
    Pattern.compile .none source = .error problem →
      problem.flaw ≠ .repeatTooLarge ∧ problem.flaw ≠ .asciiAndUnicode

theorem check_refusal {name : String} {pattern : Pattern} {r : Refusal} (failed : check name pattern = .error r) :
    ∃ reason, r = .rejected name reason := by
  unfold check at failed
  split at failed
  · cases failed
    exact ⟨_, rfl⟩
  · cases failed

theorem make_refusal {name : String} {e : Export} {r : Refusal}
    (sober : ∀ source problem, e = .text source → Pattern.compile .none source = .error problem →
      problem.flaw ≠ .repeatTooLarge ∧ problem.flaw ≠ .asciiAndUnicode)
    (failed : make name e = .error r) : ∃ reason, r = .rejected name reason := by
  cases e with
  | text source =>
    rw [make] at failed
    cases compiled : Pattern.compile .none source with
    | ok pattern =>
      rw [compiled] at failed
      exact check_refusal failed
    | error problem =>
      obtain ⟨bounded, consistent⟩ := sober source problem rfl compiled
      simp only [compiled] at failed
      cases failed
      exact ⟨_, rfl⟩
  | compiled pattern => exact check_refusal failed
  | bytes =>
    cases failed
    exact ⟨_, rfl⟩
  | other type =>
    cases failed
    exact ⟨_, rfl⟩

theorem load_refusal {p : Plugin} {fileName : String} {r : Refusal} (sober : p.Sober)
    (failed : p.load fileName = .error r) : ∃ name reason, r = .rejected name reason := by
  unfold load at failed
  dsimp only at failed
  split at failed
  · cases failed
    exact ⟨_, _, rfl⟩
  · cases failed
    exact ⟨_, _, rfl⟩
  · next offer _ offered =>
    split at failed
    · cases failed
      exact ⟨_, _, rfl⟩
    · next e given =>
      split at failed
      · cases failed
        exact ⟨_, _, rfl⟩
      · next name _ =>
        refine ⟨name, make_refusal (fun source problem same => ?_) failed⟩
        exact sober offer source problem offered (same ▸ given)

end Detector.Plugin

namespace Volume

def Sober (v : Volume) : Prop :=
  ∀ l plugin, v.get? l = some (.plugin plugin) → plugin.Sober

end Volume

namespace Detector

theorem Plugin.sober_blank : Plugin.blank.Sober := by
  intro offer source problem offered
  cases offered

theorem loadIn_eq_error {v : Volume} {p : Path} {f : Failure} (sober : v.Sober) (failed : loadIn v p = .error f) :
    ∃ name message, f = .detector name message := by
  have refused : ∀ (plugin : Plugin), plugin.Sober →
      (plugin.load p.name).mapError Refusal.failure = .error f → ∃ name message, f = .detector name message := by
    intro plugin sober failed
    cases loaded : plugin.load p.name with
    | ok d =>
      rw [loaded] at failed
      cases failed
    | error r =>
      rw [loaded] at failed
      cases failed
      obtain ⟨name, reason, rfl⟩ := Plugin.load_refusal sober loaded
      exact ⟨_, _, rfl⟩
  rw [loadIn] at failed
  split at failed
  · cases failed
    exact ⟨_, _, rfl⟩
  · cases found : v.lookup true p with
    | error fault =>
      rw [found] at failed
      cases failed
      exact ⟨_, _, rfl⟩
    | ok s =>
      obtain ⟨_, entry, _⟩ := Volume.lookup_eq_ok_iff.mp found
      rw [found] at failed
      dsimp only at failed
      split at failed
      · cases failed
        exact ⟨_, _, rfl⟩
      · cases failed
        exact ⟨_, _, rfl⟩
      · next plugin here => exact refused plugin (sober s.place plugin (entry.symm.trans here)) failed
      · exact refused .blank Plugin.sober_blank failed

end Detector

namespace DetectorSet

variable {v : Volume}

theorem insertIn_eq_ok (sober : v.Sober) (s : DetectorSet) (p : Path) : ∃ s', insertIn v s p = .ok s' := by
  rw [insertIn]
  cases loaded : Detector.loadIn v p with
  | ok d => exact ⟨_, rfl⟩
  | error f =>
    obtain ⟨name, message, rfl⟩ := Detector.loadIn_eq_error sober loaded
    exact ⟨_, rfl⟩

theorem foldlM_insertIn_eq_ok (sober : v.Sober) (paths : List Path) (s : DetectorSet) :
    ∃ s', paths.foldlM (insertIn v) s = .ok s' := by
  induction paths generalizing s with
  | nil => exact ⟨s, rfl⟩
  | cons p paths ih =>
    obtain ⟨s₁, inserted⟩ := insertIn_eq_ok sober s p
    obtain ⟨s₂, rest⟩ := ih s₁
    rw [List.foldlM_cons, inserted]
    exact ⟨s₂, rest⟩

theorem folderIn_foreseen (sober : v.Sober) {s : DetectorSet} {folder : DetectorFolder} {f : Failure}
    (failed : folderIn v s folder = .error f) : f.isForeseen = true := by
  cases folder with
  | builtin => cases failed
  | folder p =>
    rw [folderIn] at failed
    cases answer : v.isFolder p with
    | error fault =>
      rw [answer] at failed
      cases failed
      exact Failure.isForeseen_of_holds answer
    | ok isFolder =>
      cases isFolder with
      | false =>
        rw [answer] at failed
        cases failed
      | true =>
        obtain ⟨place, there⟩ := Volume.isFolder_eq_true_iff.mp answer
        have found : v.find p = .ok { place, entry := some .folder } := by
          rw [Volume.find, there]
          rfl
        obtain ⟨s', inserted⟩ := foldlM_insertIn_eq_ok sober (candidates v p place) s
        rw [answer, found] at failed
        cases inserted.symm.trans failed

theorem loadIn_foreseen (sober : v.Sober) {folders : List DetectorFolder} {f : Failure}
    (failed : loadIn v folders = .error f) : f.isForeseen = true := by
  rw [loadIn] at failed
  generalize empty = s at failed
  induction folders generalizing s with
  | nil => cases failed
  | cons folder folders ih =>
    rw [List.foldlM_cons] at failed
    cases first : folderIn v s folder with
    | error f' =>
      rw [first] at failed
      cases failed
      exact folderIn_foreseen sober first
    | ok s' =>
      rw [first] at failed
      exact ih s' failed

end DetectorSet

namespace Volume

theorem clean_of_holds {v : Volume} {test : Entry → Bool} {p : Path} (answer : v.holds test p = .ok true) :
    p.names.all isNullFree = true := by
  cases found : v.lookup true p with
  | ok s => exact (askable_of_lookup found).clean
  | error fault =>
    simp only [holds, found] at answer
    split at answer <;> cases answer

theorem read_ne_nullByte {v : Volume} {p : Path} (clean : p.names.all isNullFree = true) :
    v.read p ≠ .error .nullByte := by
  have other : v.lookup true p ≠ .error .nullByte := lookup_ne_nullByte clean
  rw [read]
  split <;> simp_all

end Volume

namespace Signal

open Artifact Volume

theorem readText_eq_ok {p : Path} {w w' : World} {text : Text} (read : outcome (readText p) w = (.ok text, w')) :
    w' = w ∧ ∃ bytes t, w.volume.read p = .ok bytes ∧ Utf8.decode bytes = .ok t ∧ text = unified t := by
  refine ⟨by simpa [read] using state_readText p w, ?_⟩
  obtain ⟨bytes, w₁, asked, rest⟩ := outcome_bind_eq_ok read
  rw [Survey.outcome_ask] at asked
  cases stands : w.volume.read p with
  | error fault =>
    rw [stands] at asked
    cases asked
  | ok bytes' =>
    rw [stands] at asked
    cases asked
    cases decoded : Utf8.decode bytes with
    | error f =>
      simp only [decoded] at rest
      cases rest
    | ok t =>
      simp only [decoded] at rest
      cases rest
      exact ⟨bytes, t, rfl, decoded, rfl⟩

theorem tame_readText {p : Path} {w : World} (clean : p.names.all isNullFree = true)
    (decodes : ∀ bytes, w.volume.read p = .ok bytes → ∃ t, Utf8.decode bytes = .ok t) : Tame (readText p) w := by
  refine Tame.bind_quiet (Quiet.ask p fun v => v.read p) (fun f failed => ?_) fun bytes notices seen => ?_
  · cases stands : w.volume.read p with
    | ok bytes =>
      rw [stands] at failed
      cases failed
    | error fault =>
      rw [stands] at failed
      cases failed
      refine Failure.isForeseen_ofTrouble ?_
      rintro rfl
      exact read_ne_nullByte clean stands
  · cases stands : w.volume.read p with
    | error fault =>
      rw [stands] at seen
      cases seen
    | ok bytes' =>
      rw [stands] at seen
      cases seen
      obtain ⟨t, decoded⟩ := decodes bytes stands
      simp only [decoded]
      exact .pure _

/-- The bytes of a report that signals can be taken from, or that is foreseen to be none: they form a text, no
integer in it is too long, and no signal holds half a character. -/
def Legible (bytes : ByteArray) : Prop :=
  ∃ t, Utf8.decode bytes = .ok t ∧
    match Json.read (unified t) with
    | .error e => ∀ count, e.complaint ≠ .tooManyDigits count
    | .ok (.array records) =>
        ∀ signals, ofRecords (records.filter isObject) = .ok signals → ∀ s ∈ signals, s.words.hasSurrogate = false
    | .ok _ => True

theorem isForeseen_unread {text : Text} {e : Json.ReadError} (short : ∀ count, e.complaint ≠ .tooManyDigits count) :
    (unread text e).isForeseen = true := by
  rw [unread]
  split
  · next count same => exact absurd same (short count)
  · rfl

theorem tame_save {folder : Path} {name : String} {signals : List Signal} {total : Nat} {w : World}
    (clean : folder.names.all isNullFree = true) (whole : ∀ s ∈ signals, s.words.hasSurrogate = false) :
    Tame (save (folder.child name) signals total) w := by
  rw [save, Path.parent_child]
  refine FailsOnly.bind (fun f w₁ failed => ?_) fun path w₁ found => ?_
  · rw [outcome_uniquePath] at failed
    obtain ⟨fault, path, present, rfl⟩ := firstFree_eq_error failed
    refine Failure.isForeseen_ofTrouble ?_
    rintro rfl
    cases present
  · rw [outcome_uniquePath] at found
    obtain ⟨rfl, k, _, here, _⟩ := firstFree_eq_ok found
    rw [candidate_eq_child _ _ _ _ _ (by decide) (by decide)] at here
    subst here
    have free : isNullFree (candidateName fileStart ".json" w₁.clock k) = true := by
      have absent := not_mem_candidateName fileStart ".json" w₁.clock k (c := '\x00') rfl (by decide) (by decide)
      simpa [isNullFree] using absent
    have encodable : (Json.print .report (.array (signals.map toJson))).hasSurrogate = false := by
      rw [hasSurrogate_print, List.any_eq_false]
      exact fun s found => by simp [whole s found]
    rw [writeJson_signals]
    refine (tame_writeText (clean_child clean free) encodable).bind fun _ w₂ _ => ?_
    exact (Tame.note _ _ _ _ w₂).bind fun _ _ _ => .pure _

theorem tame_extract {folder : Path} {name : String} {w : World}
    (legible : ∀ bytes, w.volume.read (folder.child name) = .ok bytes → Legible bytes) :
    Tame (extract (folder.child name)) w := by
  refine Tame.bind_quiet (Quiet.ask (folder.child name) fun v => v.isFile (folder.child name)) (fun f failed => ?_)
    fun isFile notices seen => ?_
  · cases answer : w.volume.isFile (folder.child name) with
    | ok isFile =>
      rw [answer] at failed
      cases failed
    | error fault =>
      rw [answer] at failed
      cases failed
      exact Failure.isForeseen_of_holds answer
  · cases isFile with
    | false => exact .of_error rfl rfl
    | true =>
      -- A path that leads to a file holds no null.
      have clean : (folder.child name).names.all isNullFree = true := by
        cases answer : w.volume.isFile (folder.child name) with
        | error fault =>
          rw [answer] at seen
          cases seen
        | ok isFile =>
          rw [answer] at seen
          cases seen
          exact clean_of_holds answer
      have above : folder.names.all isNullFree = true := by
        rw [Path.child, List.all_append, Bool.and_eq_true] at clean
        exact clean.1
      simp only [Bool.not_true, Bool.false_eq_true, if_false]
      have decodes : ∀ bytes, w.volume.read (folder.child name) = .ok bytes → ∃ t, Utf8.decode bytes = .ok t :=
        fun bytes stands => (legible bytes stands).imp fun _ legible => legible.1
      refine (tame_readText (w := { w with notices }) clean decodes).bind fun text w₁ read => ?_
      obtain ⟨_, bytes, t, stands, decoded, rfl⟩ := readText_eq_ok read
      obtain ⟨t', decoded', rest⟩ := legible bytes stands
      obtain rfl := Except.ok.inj (decoded.symm.trans decoded')
      cases parsed : Json.read (unified t) with
      | error e =>
        rw [parsed] at rest
        exact .throw (isForeseen_unread rest)
      | ok v =>
        rw [parsed] at rest
        cases v with
        | array records =>
          have found := ofRecords_eq records
          simp only [found]
          refine FailsOnly.bind (.of_ok (Survey.outcome_ofExcept _)) fun signals' w₂ same => ?_
          rw [Survey.outcome_ofExcept] at same
          cases same
          exact tame_save above (rest _ found)
        | _ => exact .throw rfl

end Signal

namespace Signal

open Artifact Volume

theorem extract_eq_ok {report path : Path} {w w' : World}
    (extracted : outcome (extract report) w = (.ok path, w')) :
    path.names.all isNullFree = true ∧
      ∀ bytes, w'.volume.read path = .ok bytes → ∃ t, Utf8.decode bytes = .ok t := by
  rcases extract_cases report w with ⟨f, failed⟩ | ⟨_, signals, total, saved⟩
  · cases failed.symm.trans extracted
  · obtain ⟨k, ready, scratch, place, notices, rfl, whole, landing, rfl⟩ := landing_of_save (saved.symm.trans extracted)
    refine ⟨landing.askable.clean, fun bytes read => ?_⟩
    -- The path may have gone through a link that the file has replaced. Then it leads to no file any more.
    have plain := landing.there.isPlain.child (candidateName fileStart ".json" w.clock k)
    obtain rfl := landing.read_child (candidateName_proper _ _ _ _) ((get?_landed plain).trans (if_pos rfl)) read
    exact ⟨_, Utf8.decode_encode whole⟩

theorem legible_records {records : List Scan.Record} (whole : ∀ r ∈ records, r.IsWhole) :
    Legible (Utf8.encode (Json.print .report (.array (records.map Scan.Record.toJson)))) := by
  have encodable := Scan.hasSurrogate_records whole
  have faithful := Scan.faithful_records records
  refine ⟨_, Utf8.decode_encode encodable, ?_⟩
  rw [unified_eq encodable (Json.no_carriage_print faithful), Json.read_print faithful]
  intro signals found
  obtain rfl := Except.ok.inj ((ofRecords_toJson records).symm.trans found)
  have none := hasSurrogate_signals whole
  rw [hasSurrogate_print, List.any_eq_false] at none
  exact fun s inside => by simpa using none s inside

end Signal

namespace Analysis

open Artifact Volume

variable {site : String} {paths : List Path} {c : Config} {root : Option Path} {w w' : World}

/-- The folder for the reports of a site can be spoken of. -/
def Speakable (c : Config) (site : String) : Prop :=
  ∀ out, c.analysisFolder site = .ok out → out.names.all isNullFree = true

/-- No request in the scripts of a folder holds half a character. -/
def WholeFindings (v : Volume) (c : Config) (folder : Path) : Prop :=
  ∀ paths, Source.collectIn v folder c.extensions = .ok paths → ∀ p ∈ paths,
    ∀ f ∈ RequestSurface.findingsIn v c.senders (some folder) p, f.words.hasSurrogate = false

/-- The report of a site for machines, if there is one, is legible. -/
def LegibleReport (v : Volume) (c : Config) (site : String) : Prop :=
  ∀ out bytes, c.analysisFolder site = .ok out → v.read (out.child machineReportFile) = .ok bytes →
    Signal.Legible bytes

theorem analysisFolder_foreseen {f : Failure} (address : Site.HasAddress site)
    (failed : c.analysisFolder site = .error f) : f.isForeseen = true := by
  rw [Config.analysisFolder] at failed
  split at failed
  · next named =>
    cases failed
    exact address.foreseen named
  · cases failed

theorem tame_runRequestSurface (address : Site.HasAddress site)
    (speakable : Speakable c site)
    (regular : ∀ p ∈ paths, Source.Regular w.volume root p)
    (whole : ∀ p ∈ paths, ∀ f ∈ RequestSurface.findingsIn w.volume c.senders root p, f.words.hasSurrogate = false) :
    Tame (runRequestSurface site paths c root) w := by
  refine Tame.bind_quiet (Quiet.ofExcept _) (fun f => analysisFolder_foreseen address) fun out notices located => ?_
  have seen := surfaceIn_eq site c root regular
  refine Tame.bind_quiet (RequestSurface.quiet_analyze c.senders site root paths c.workers Pool.inLine)
    (fun f failed => ?_) fun report notices found => ?_
  · cases seen.symm.trans failed
  · obtain rfl := Except.ok.inj (seen.symm.trans found)
    have encodable := RequestSurface.hasSurrogate_toJson
      (.ofOutcomes site (paths.map (RequestSurface.outcomeOf w.volume c.senders root)))
    rw [(RequestSurface.surface_eq site w.volume c.senders root paths).2, List.any_eq_false.mpr] at encodable
    · rw [div_requestSurfaceFile, writeJson_surface]
      refine (tame_writeText (clean_child (speakable out located) (by decide)) encodable).bind fun _ w₁ _ => ?_
      exact (Tame.note _ _ _ _ w₁).bind fun _ _ _ => .pure _
    · intro f inside
      obtain ⟨p, listed, here⟩ := List.mem_flatMap.mp inside
      simp [whole p listed f here]

theorem scanIn_foreseen {v : Volume} {f : Failure}
    (detectors : ∀ f, DetectorSet.loadIn v c.detectorFolders = .error f → f.isForeseen = true)
    (regular : ∀ p ∈ paths, Source.Regular v root p) (failed : scanIn v site paths c root = .error f) :
    f.isForeseen = true := by
  cases loaded : DetectorSet.loadIn v c.detectorFolders with
  | error f' =>
    rw [scanIn, loaded] at failed
    cases failed
    exact detectors f loaded
  | ok set =>
    have mapped : paths.mapM (PatternScan.outcomeIn v c.radius set.detectors root) =
        .ok (paths.map (PatternScan.outcomeOf v c.radius set.detectors root)) :=
      mapM_eq_ok fun p found => PatternScan.outcomeIn_eq (regular p found)
    obtain ⟨scan, seen, _⟩ := scanIn_of_outcomes site loaded mapped
    cases seen.symm.trans failed

theorem tame_runPatternScan (address : Site.HasAddress site)
    (speakable : Speakable c site)
    (detectors : ∀ f, DetectorSet.loadIn w.volume c.detectorFolders = .error f → f.isForeseen = true)
    (regular : ∀ p ∈ paths, Source.Regular w.volume root p) : Tame (runPatternScan site paths c root) w := by
  rw [runPatternScan_eq]
  refine Tame.bind_quiet (Quiet.ofExcept _) (fun f => analysisFolder_foreseen address) fun out notices located => ?_
  refine Tame.bind_quiet (quiet_prepareScan site paths c root) (fun f => scanIn_foreseen detectors regular)
    fun scan notices seen => ?_
  have whole := isWhole_of_scanIn seen
  rw [div_machineReportFile, div_humanReportFile, writeJson_scan]
  refine (tame_writeText (clean_child (speakable out located) (by decide)) (Scan.hasSurrogate_records whole)).bind
    fun _ w₁ _ => ?_
  refine (tame_writeText (clean_child (speakable out located) (by decide)) (Scan.hasSurrogate_render whole)).bind
    fun _ w₂ _ => ?_
  exact (Tame.note _ _ _ _ w₂).bind fun _ _ _ => .pure _

theorem tame_runTriage (address : Site.HasAddress site) (legible : LegibleReport w.volume c site) :
    Tame (runTriage site c) w := by
  refine Tame.bind_quiet (Quiet.ofExcept _) (fun f => analysisFolder_foreseen address) fun out notices located => ?_
  rw [div_machineReportFile]
  refine (Signal.tame_extract (w := { w with notices }) fun bytes => legible out bytes located).bind fun _ w₁ _ => ?_
  exact (Tame.note _ _ _ _ w₁).bind fun _ _ _ => .pure _

theorem read_machineReport {scan : PatternScan} {machine human out : Path} {bytes : ByteArray}
    (scanned : outcome (runPatternScan site paths c root) w = (.ok (scan, machine, human), w'))
    (located : c.analysisFolder site = .ok out)
    (read : w'.volume.read (out.child machineReportFile) = .ok bytes) :
    bytes = Utf8.encode (Json.print .report scan.toJson) := by
  obtain ⟨out', notices, w₁, w₂, notices', located', _, first, second, rfl⟩ := runPatternScan_eq_ok scanned
  obtain rfl := Except.ok.inj (located.symm.trans located')
  obtain ⟨_, _, ready, scratch, place, landing, rfl⟩ := landing_of_writeText (by decide) first
  obtain ⟨_, _, ready', scratch', place', landing', rfl⟩ := landing_of_writeText (by decide) second
  -- Both reports have landed in the same folder, or the second one could not have been written.
  obtain ⟨there, rfl⟩ := landing.folder_after landing'.made
  obtain rfl := there.unique landing'.there
  have plain := there.isPlain.child machineReportFile
  have other : place.child (.plain machineReportFile) ≠ place.child (.plain humanReportFile) :=
    fun same => absurd (child_injective same) (by decide)
  refine landing'.read_child (by decide) ?_ read
  rw [get?_landed plain, if_neg other, get?_landed plain, if_pos rfl]

theorem tame_run {folder : Path} (nullFree : NullFree w.volume) (address : Site.HasAddress site)
    (speakable : Speakable c site)
    (builtin : ∀ d ∈ c.detectorFolders, d = .builtin) (whole : WholeFindings w.volume c folder) :
    Tame (run site folder c) w := by
  refine Tame.bind_quiet (Quiet.ofExcept _) (fun f => address.foreseen) fun _ _ _ => ?_
  refine Tame.bind_quiet (Source.quiet_collect folder c.extensions) (fun f => Source.collectIn_foreseen)
    fun paths _ collected => ?_
  refine Tame.bind_quiet (Quiet.note _ _ _ _) (fun f failed => by cases failed) fun _ _ _ => ?_
  have regular : ∀ v, ∀ p ∈ paths, Source.Regular v (some folder) p :=
    fun v p found => Source.regular_of_collectIn nullFree collected found
  refine FailsOnly.bind (tame_runRequestSurface address speakable (regular _) (whole paths collected))
    fun surface w₁ _ => ?_
  obtain ⟨surface, surfacePath⟩ := surface
  have detectors : ∀ f, DetectorSet.loadIn w₁.volume c.detectorFolders = .error f → f.isForeseen = true := by
    intro f failed
    obtain ⟨set, loaded⟩ := DetectorSet.loadIn_builtin w₁.volume builtin
    cases loaded.symm.trans failed
  refine (tame_runPatternScan address speakable detectors (regular _)).bind fun scan w₂ scanned => ?_
  obtain ⟨scan, machine, human⟩ := scan
  obtain ⟨_, _, _, _, _, _, seen, _⟩ := runPatternScan_eq_ok scanned
  -- The triage may not find the report, but what it finds is the report of this scan.
  refine (tame_runTriage address fun out bytes located read => ?_).bind fun _ _ _ => .pure _
  rw [read_machineReport scanned located read]
  exact Signal.legible_records (isWhole_of_scanIn seen)

end Analysis

end SiteSurvey
