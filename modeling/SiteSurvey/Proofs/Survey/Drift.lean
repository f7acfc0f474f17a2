import SiteSurvey.Proofs.Survey.Run
import SiteSurvey.Proofs.Survey.Stable

set_option autoImplicit false

namespace SiteSurvey

namespace Failure

def isMissing : Failure → Bool
  | missingFile _ => true
  | system trouble => trouble.fault == .missing
  | _ => false

def isInvalid : Failure → Bool
  | invalidInput _ => true
  | _ => false

theorem isMissing_ofTrouble {t : Trouble} (other : t.fault ≠ .missing) : (ofTrouble t).isMissing = false := by
  unfold ofTrouble
  split
  · rfl
  · simpa [isMissing] using other

theorem isInvalid_ofTrouble (t : Trouble) : (ofTrouble t).isInvalid = false := by
  unfold ofTrouble
  split <;> rfl

theorem isMissing_unwritable (p : Path) (t : Trouble) : (Artifact.unwritable p t).isMissing = false := by
  unfold Artifact.unwritable
  split
  · rename_i null
    exact isMissing_ofTrouble (by rw [null]; decide)
  · rfl

theorem isInvalid_unwritable (p : Path) (t : Trouble) : (Artifact.unwritable p t).isInvalid = false := by
  unfold Artifact.unwritable
  split
  · exact isInvalid_ofTrouble t
  · rfl

end Failure

namespace Signal

open Artifact Volume

theorem save_eq_error {report : Path} {signals : List Signal} {total : Nat} {w w' : World} {f : Failure}
    (failed : outcome (save report signals total) w = (.error f, w')) :
    f.isMissing = false ∧ f.isInvalid = false := by
  rw [save] at failed
  rcases outcome_bind_eq_error failed with searched | ⟨path, w₁, _, rest⟩
  · rw [outcome_uniquePath] at searched
    obtain ⟨fault, path, present, rfl⟩ := firstFree_eq_error searched
    refine ⟨Failure.isMissing_ofTrouble ?_, Failure.isInvalid_ofTrouble _⟩
    rintro rfl
    simp [VolumeFault.meansAbsent] at present
  · rcases outcome_bind_eq_error rest with written | ⟨_, _, _, noted⟩
    · rw [writeJson_signals] at written
      rcases writeText_eq_error written with ⟨t, rfl⟩ | ⟨message, rfl⟩
      · exact ⟨Failure.isMissing_unwritable path t, Failure.isInvalid_unwritable path t⟩
      · exact ⟨rfl, rfl⟩
    · cases noted

theorem save_eq_ok {report path : Path} {signals : List Signal} {total : Nat} {w w' : World} {folder : Location}
    (there : Folder w.volume report.parent folder)
    (saved : outcome (save report signals total) w = (.ok path, w')) :
    ∃ s bytes text, w.volume.lookup false path = .ok s ∧ w'.volume.get? s.place = some (.file bytes) ∧
      Utf8.decode bytes = .ok text ∧ Json.read text = .ok (.array (signals.map toJson)) := by
  obtain ⟨k, ready, scratch, place, notices, rfl, whole, landing, rfl⟩ := landing_of_save saved
  have proper := candidateName_proper fileStart ".json" w.clock k
  obtain rfl : w.volume = ready := (Prod.mk.inj ((ensureFolders_of_folder there).symm.trans landing.made)).2
  have fits := landing.fits
  refine ⟨_, _, _, (lookup_child_iff proper).mpr ⟨landing.askable, by omega, place, landing.there, rfl⟩,
    ?_, Utf8.decode_encode whole, Json.read_print (faithful_signals signals)⟩
  exact (get?_landed (landing.there.isPlain.child _)).trans (if_pos rfl)

end Signal

namespace Analysis

open Artifact Volume

/-- After a scan the report for machines stands where it was written, and holds the records. -/
theorem lookup_machineReport {site : String} {paths : List Path} {c : Config} {root : Option Path}
    {w w₁ : World} {scan : PatternScan} {machine human : Path}
    (scanned : outcome (runPatternScan site paths c root) w = (.ok (scan, machine, human), w₁))
    (unlinked : Unlinked w.volume human) :
    ∃ out folder place, c.analysisFolder site = .ok out ∧ Folder w₁.volume out folder ∧
      w₁.volume.lookup true (out.child machineReportFile) =
        .ok ⟨place, some (.file (Utf8.encode (Json.print .report scan.toJson)))⟩ ∧
      (Json.print .report scan.toJson).hasSurrogate = false := by
  obtain ⟨out, notices, w₂, w₃, notices', located, _, first, second, rfl⟩ := runPatternScan_eq_ok scanned
  have whole := (landing_of_writeText (by decide) first).1
  obtain rfl := (landing_of_writeText (by decide) second).2.1
  obtain ⟨folder, there, stands⟩ := lookup_first (by decide) (by decide) (by decide) first second unlinked
  exact ⟨out, folder, _, located, there, stands, whole⟩

/-- The signals of a scan are those of its records as long as the report lies on the volume: a triage
neither misses it nor finds it invalid, and the file that it writes holds the hits that are worth a look, in
order. The report for people must not have taken the place of a link, since the folder may be reached
through that link. -/
theorem triage_of_runPatternScan {site : String} {paths : List Path} {c : Config} {root : Option Path}
    {w w₁ : World} {scan : PatternScan} {machine human : Path}
    (scanned : outcome (runPatternScan site paths c root) w = (.ok (scan, machine, human), w₁))
    (unlinked : Unlinked w.volume human) (clock : Moment) :
    match outcome (runTriage site c) { w₁ with clock } with
    | (.error f, _) => f.isMissing = false ∧ f.isInvalid = false
    | (.ok path, w₂) =>
        ∃ s bytes text, w₁.volume.lookup false path = .ok s ∧ w₂.volume.get? s.place = some (.file bytes) ∧
          Utf8.decode bytes = .ok text ∧
          Json.read text = .ok (.array ((Signal.ofScan scan.records).map Signal.toJson)) := by
  obtain ⟨out, folder, place, located, there, stands, whole⟩ := lookup_machineReport scanned unlinked
  obtain ⟨total, extracted⟩ := Signal.outcome_extract (w := { w₁ with clock }) stands whole
  cases saved : outcome (Signal.save (out.child machineReportFile) (Signal.ofScan scan.records) total)
      { w₁ with clock } with
  | mk r w₂ =>
    rw [saved] at extracted
    cases r with
    | error f =>
      rw [outcome_runTriage_error located extracted]
      exact Signal.save_eq_error saved
    | ok path =>
      obtain ⟨notices, triaged⟩ := outcome_runTriage_ok located extracted
      rw [triaged]
      have above : Folder w₁.volume (out.child machineReportFile).parent folder := by
        rw [Path.parent_child]
        exact there
      have held := Signal.save_eq_ok (w := { w₁ with clock }) above saved
      exact held

section Plugin

theorem loadIn_singleton {v : Volume} {folder p : Path} {place spot : Location} {plugin : Detector.Plugin}
    {d : Detector} (there : Folder v folder place) (listed : DetectorSet.candidates v folder place = [p])
    (suffix : p.toString.endsWith ".py" = true) (found : v.lookup true p = .ok ⟨spot, some (.plugin plugin)⟩)
    (loaded : plugin.load p.name = .ok d) :
    DetectorSet.loadIn v [.folder folder] = .ok (DetectorSet.empty.insert d p.toString) := by
  have isFolder : v.isFolder folder = .ok true := isFolder_eq_true_iff.mpr ⟨place, there⟩
  have inserted : DetectorSet.insertIn v .empty p = .ok (DetectorSet.empty.insert d p.toString) := by
    rw [DetectorSet.insertIn, Detector.loadIn, suffix, found]
    simp only [loaded]
    rfl
  have spotted : v.find folder = .ok ⟨place, some .folder⟩ := by
    rw [find, there]
    rfl
  have first : DetectorSet.folderIn v .empty (.folder folder) = .ok (DetectorSet.empty.insert d p.toString) := by
    rw [DetectorSet.folderIn, isFolder, spotted]
    change (DetectorSet.candidates v folder place).foldlM (DetectorSet.insertIn v) .empty = _
    rw [listed, List.foldlM_cons, inserted]
    rfl
  rw [DetectorSet.loadIn, List.foldlM_cons, first]
  rfl

def samplePlugin : Detector.Plugin where
  name := none
  offer := some (.value (.string (Text.ofString "/api")))
  complaint := none

-- A volume with a script and a detector that hits it.
def pluginVolume : Volume where
  entries := (sampleVolume "'/api'").entries ++
    [(⟨0, [.plain "d"]⟩, .folder), (⟨0, [.plain "d", .plain "p.py"]⟩, .plugin samplePlugin)]
  serial := 0

def pluginConfig : Config :=
  { sampleConfig with detectorFolders := [.folder ⟨.relative, ["d"]⟩] }

def pluginSignal : Signal where
  file := Text.ofString "src/a.js"
  detector := Text.ofString "p.py"
  matched := Text.ofString "/api"
  context := Text.ofString "'/api'"

theorem writable_plugin :
    Writable pluginVolume sampleOut (Moment.ofSeconds 0) pluginVolume samplePlace samplePlace := by
  have there : Folder pluginVolume sampleOut samplePlace :=
    lookup_eq_ok_iff.mpr ⟨by unfold Askable; decide, rfl, _,
      .down rfl (by decide) (by decide) rfl rfl (.down rfl (by decide) (by decide) rfl rfl
        (.down rfl (by decide) (by decide) rfl rfl .here))⟩
  refine writable_of_solid there (fun name e found => ?_) (by simp [pluginVolume, sampleVolume])
  have absent : pluginVolume.get? (samplePlace.child (.plain name)) = none := by
    simp [get?, pluginVolume, sampleVolume, samplePlace, Location.child]
  cases absent.symm.trans found

theorem scanIn_plugin : ∃ scan, scanIn pluginVolume "x" [sampleScript] pluginConfig none = .ok scan ∧
    Signal.ofScan scan.records = [pluginSignal] := by
  have there : Folder pluginVolume ⟨.relative, ["d"]⟩ ⟨0, [.plain "d"]⟩ :=
    lookup_eq_ok_iff.mpr ⟨by unfold Askable; decide, rfl, _, .down rfl (by decide) (by decide) rfl rfl .here⟩
  have found : pluginVolume.lookup true ⟨.relative, ["d", "p.py"]⟩ =
      .ok ⟨⟨0, [.plain "d", .plain "p.py"]⟩, some (.plugin samplePlugin)⟩ :=
    lookup_eq_ok_iff.mpr ⟨by unfold Askable; decide, rfl, _,
      .down rfl (by decide) (by decide) rfl rfl (.down rfl (by decide) (by decide) rfl rfl .here)⟩
  have script : pluginVolume.lookup true sampleScript =
      .ok ⟨⟨0, [.plain "src", .plain "a.js"]⟩, some (.file (Utf8.encode (Text.ofString "'/api'")))⟩ :=
    lookup_eq_ok_iff.mpr ⟨by unfold Askable; decide, rfl, _,
      .down rfl (by decide) (by decide) rfl rfl (.down rfl (by decide) (by decide) rfl rfl .here)⟩
  have listed : DetectorSet.candidates pluginVolume ⟨.relative, ["d"]⟩ ⟨0, [.plain "d"]⟩ =
      [⟨.relative, ["d", "p.py"]⟩] := by
    have offered : pluginVolume.entries.filterMap (DetectorSet.offered ⟨0, [.plain "d"]⟩) = ["p.py"] := by
      decide +kernel
    rw [DetectorSet.candidates_eq, offered, List.mergeSort_singleton]
    rfl
  have read : Source.readIn pluginVolume sampleScript none =
      .ok { sampleRead "'/api'" with displayName := "src/a.js" } := by
    have small : (Utf8.encode (Text.ofString "'/api'")).size ≤ Source.maxSize := by decide +kernel
    rw [Source.readIn_eq, script]
    exact Source.readEntry_file small _ _
  obtain ⟨d, loaded, hits⟩ : ∃ d, samplePlugin.load "p.py" = .ok d ∧
      Signal.ofScan (Scan.records pluginConfig.radius "src/a.js" (sampleRead "'/api'").text [d]) = [pluginSignal] := by
    have answer : (match samplePlugin.load "p.py" with
        | .ok d => Signal.ofScan (Scan.records pluginConfig.radius "src/a.js" (sampleRead "'/api'").text [d])
        | .error _ => []) = [pluginSignal] := by decide +kernel
    cases made : samplePlugin.load "p.py" with
    | ok d =>
      rw [made] at answer
      exact ⟨d, rfl, answer⟩
    | error f =>
      rw [made] at answer
      cases answer
  have set := loadIn_singleton there listed (by decide +kernel) found loaded
  have seen : PatternScan.outcomeIn pluginVolume pluginConfig.radius [d] none sampleScript =
      .ok { file := "src/a.js"
            records := some (Scan.records pluginConfig.radius "src/a.js" (sampleRead "'/api'").text [d]) } := by
    rw [PatternScan.outcomeIn, RequestSurface.readable, read]
    rfl
  have mapped : [sampleScript].mapM (PatternScan.outcomeIn pluginVolume pluginConfig.radius [d] none) =
      .ok [{ file := "src/a.js"
             records := some (Scan.records pluginConfig.radius "src/a.js" (sampleRead "'/api'").text [d]) }] := by
    rw [List.mapM_cons, seen]
    rfl
  obtain ⟨scan, whole, _, records⟩ := scanIn_of_outcomes (c := pluginConfig) "x" set mapped
  refine ⟨scan, whole, ?_⟩
  rw [records, ← hits]
  simp

-- A detector of a folder hits a script, and its hit comes back as the one signal.
theorem triage_of_plugin : ∃ scan machine human w₁ path w₂ s bytes text,
    outcome (runPatternScan "x" [sampleScript] pluginConfig none) ⟨pluginVolume, Moment.ofSeconds 0, []⟩ =
      (.ok (scan, machine, human), w₁) ∧
    outcome (runTriage "x" pluginConfig) { w₁ with clock := Moment.ofSeconds 0 } = (.ok path, w₂) ∧
    w₁.volume.lookup false path = .ok s ∧ w₂.volume.get? s.place = some (.file bytes) ∧
    Utf8.decode bytes = .ok text ∧ Json.read text = .ok (.array [pluginSignal.toJson]) := by
  obtain ⟨scan, seen, signals⟩ := scanIn_plugin
  have located : pluginConfig.analysisFolder "x" = .ok sampleOut := rfl
  have records := isWhole_of_scanIn seen
  have room := writable_plugin.room
  have human := writable_plugin.slots humanReportFile (by decide)
  obtain ⟨notices, scanned⟩ := yields_runPatternScan (w := ⟨pluginVolume, Moment.ofSeconds 0, []⟩)
    located seen room
    (writable_plugin.slots machineReportFile (by decide)) human
    (Scan.hasSurrogate_records records) (Scan.hasSurrogate_render records)
  have result := triage_of_runPatternScan scanned (human.unlinked room.made room.there) (Moment.ofSeconds 0)
  have after := writable_plugin.toPrepared.withScan scan
  obtain ⟨count, next, _⟩ := next_of_vacant (scanReports scan) room writable_plugin.slots
    (fun _ => mem_scanReports) writable_plugin.vacant
  obtain ⟨notices', triaged⟩ := yields_runTriage
    (w := ⟨withScan pluginVolume samplePlace samplePlace scan, Moment.ofSeconds 0, notices⟩) located after.room
    (lookup_withScan writable_plugin.toPrepared scan) (Scan.hasSurrogate_records records)
    (Signal.hasSurrogate_signals records) next
  rw [withScan] at triaged
  simp only [triaged] at result
  obtain ⟨s, bytes, text, found, file, decoded, read⟩ := result
  rw [signals] at read
  exact ⟨scan, _, _, _, _, _, s, bytes, text, scanned, triaged, found, file, decoded, read⟩

end Plugin

section Looped

-- A folder for the reports that is reached through a link with the name of a report.
def loopedVolume : Volume where
  entries :=
    [(⟨0, [.plain "a"]⟩, .folder),
     (⟨0, [.plain "a", .plain humanReportFile]⟩, .link ⟨.relative, ["..", "d"]⟩),
     (⟨0, [.plain "d"]⟩, .folder),
     (⟨0, [.plain "d", .plain "x"]⟩, .folder),
     (⟨0, [.plain "d", .plain "x", .plain "analysis"]⟩, .link ⟨.relative, ["..", "..", "a"]⟩)]
  serial := 0

def loopedConfig : Config :=
  { sampleConfig with outputRoot := ⟨.relative, ["a", humanReportFile]⟩ }

def loopedOut : Path := ⟨.relative, ["a", humanReportFile, "x", "analysis"]⟩

def loopedPlace : Location := ⟨0, [.plain "a"]⟩

theorem sound_looped : Sound loopedVolume where
  distinct := by decide
  named := by decide
  rooted := List.forall_mem_cons.mpr ⟨rfl, List.forall_mem_cons.mpr ⟨rfl, List.forall_mem_cons.mpr ⟨rfl,
    List.forall_mem_cons.mpr ⟨rfl, List.forall_mem_singleton.mpr rfl⟩⟩⟩⟩
  proper := by decide
  temporary := by simp [loopedVolume]

theorem folder_looped : Folder loopedVolume loopedOut loopedPlace :=
  lookup_eq_ok_iff.mpr ⟨by unfold Askable; decide, rfl, _,
    .down rfl (by decide) (by decide) rfl rfl (.follow rfl (by decide) (by decide) rfl (.inr rfl)
      (.up rfl (.down rfl (by decide) (by decide) rfl rfl (.down rfl (by decide) (by decide) rfl rfl
        (.follow rfl (by decide) (by decide) rfl (.inr rfl)
          (.up rfl (.up rfl (.down rfl (by decide) (by decide) rfl rfl .here))))))))⟩

theorem slot_looped : Slot loopedVolume loopedOut loopedPlace machineReportFile where
  proper := by decide
  fits := by decide
  askable := by unfold Askable; decide
  solid := fun e found => by cases found

theorem landing_looped (bytes : ByteArray) :
    Landing (landed loopedVolume machineReportFile loopedPlace loopedPlace bytes) loopedOut humanReportFile
      (landed loopedVolume machineReportFile loopedPlace loopedPlace bytes) loopedPlace loopedPlace := by
  have room : Room loopedVolume loopedOut loopedPlace loopedPlace := ⟨folder_looped, folder_looped⟩
  have room' := room.landed slot_looped bytes
  exact { made := room'.made, room := room'.drafts, fits := by decide, askable := by unfold Askable; decide,
          there := room'.there, free := fun same => by cases same }

theorem lookup_looped (bytes bytes' : ByteArray) :
    (landed (landed loopedVolume machineReportFile loopedPlace loopedPlace bytes) humanReportFile loopedPlace
      loopedPlace bytes').lookup true (loopedOut.child machineReportFile) = .error .notFolder := by
  have first : (landed (landed loopedVolume machineReportFile loopedPlace loopedPlace bytes) humanReportFile
      loopedPlace loopedPlace bytes').get? ⟨0, [.plain "a"]⟩ = some .folder := rfl
  have second : (landed (landed loopedVolume machineReportFile loopedPlace loopedPlace bytes) humanReportFile
      loopedPlace loopedPlace bytes').get? ⟨0, [.plain "a", .plain humanReportFile]⟩ = some (.file bytes') := rfl
  rw [lookup_of_askable (by unfold Askable; decide)]
  exact (walk_down rfl (by decide) (by decide) first rfl).trans
    ((walk_down first (by decide) (by decide) second rfl).trans (walk_blocked _ second rfl))

/-- The report for people takes the place of the link that leads to the report for machines, which the
triage then misses. -/
theorem triage_without_report : ∃ (w : World) (scan : PatternScan) (machine human : Path) (w₁ : World),
    Sound w.volume ∧ outcome (runPatternScan "x" [] loopedConfig none) w = (.ok (scan, machine, human), w₁) ∧
    ∀ clock, ∃ f w₂, outcome (runTriage "x" loopedConfig) { w₁ with clock } = (.error f, w₂) ∧
      f.isMissing = true := by
  have located : loopedConfig.analysisFolder "x" = .ok loopedOut := rfl
  have room : Room loopedVolume loopedOut loopedPlace loopedPlace := ⟨folder_looped, folder_looped⟩
  have regular : ∀ p ∈ ([] : List Path), Source.Regular loopedVolume none p := by simp
  obtain ⟨scan, seen, _⟩ := scanIn_builtin (c := loopedConfig) "x" none (by decide) regular
  have records := isWhole_of_scanIn seen
  obtain ⟨notices, scanned⟩ := yields_runPatternScan_of_landing (w := ⟨loopedVolume, Moment.ofSeconds 0, []⟩)
    located seen (landing_of_room room.made room slot_looped) (landing_looped _)
    (Scan.hasSurrogate_records records) (Scan.hasSurrogate_render records)
  refine ⟨_, _, _, _, _, sound_looped, scanned, fun clock => ?_⟩
  have missing := lookup_looped (Utf8.encode (Json.print .report scan.toJson)) (Utf8.encode (Scan.render scan.records))
  generalize landed (landed loopedVolume machineReportFile loopedPlace loopedPlace
    (Utf8.encode (Json.print .report scan.toJson))) humanReportFile loopedPlace loopedPlace
    (Utf8.encode (Scan.render scan.records)) = v at missing ⊢
  have failed : outcome (Signal.extract (loopedOut.child machineReportFile)) ⟨v, clock, notices⟩ =
      (.error (.missingFile ("Machine report not found: " ++ (loopedOut.child machineReportFile).toString)),
        ⟨v, clock, notices⟩) := by
    have none : outcome (Survey.ask (loopedOut.child machineReportFile) fun v =>
        v.isFile (loopedOut.child machineReportFile)) ⟨v, clock, notices⟩ = (.ok false, ⟨v, clock, notices⟩) := by
      rw [Survey.outcome_ask, Volume.isFile, Volume.holds, missing]
      rfl
    rw [Signal.extract, outcome_bind_ok none]
    rfl
  exact ⟨_, _, outcome_runTriage_error located failed, rfl⟩

end Looped

end Analysis

end SiteSurvey
