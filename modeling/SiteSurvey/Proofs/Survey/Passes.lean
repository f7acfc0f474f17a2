import SiteSurvey.Proofs.Artifact.Room
import SiteSurvey.Proofs.Signal.Report
import SiteSurvey.Proofs.Survey.Stages

set_option autoImplicit false

namespace SiteSurvey.Analysis

open Artifact Volume

def surfaceIn (v : Volume) (site : String) (paths : List Path) (c : Config) (root : Option Path) :
    Except Failure RequestSurface := do
  return RequestSurface.ofOutcomes site (← paths.mapM (RequestSurface.outcomeIn v c.senders root))

def scanIn (v : Volume) (site : String) (paths : List Path) (c : Config) (root : Option Path) :
    Except Failure PatternScan := do
  let set ← DetectorSet.loadIn v c.detectorFolders
  let outcomes ← paths.mapM (PatternScan.outcomeIn v c.radius set.detectors root)
  return { PatternScan.ofOutcomes site set.detectors outcomes with
           rejected := (set.rejected.map (·.1)).mergeSort textLessEqual }

theorem scanIn_eq_ok {v : Volume} {site : String} {paths : List Path} {c : Config} {root : Option Path}
    {scan : PatternScan} (seen : scanIn v site paths c root = .ok scan) :
    ∃ set outcomes, DetectorSet.loadIn v c.detectorFolders = .ok set ∧
      paths.mapM (PatternScan.outcomeIn v c.radius set.detectors root) = .ok outcomes ∧
      scan = { PatternScan.ofOutcomes site set.detectors outcomes with
               rejected := (set.rejected.map (·.1)).mergeSort textLessEqual } := by
  rw [scanIn] at seen
  cases loaded : DetectorSet.loadIn v c.detectorFolders with
  | error f =>
    rw [loaded] at seen
    cases seen
  | ok set =>
    rw [loaded] at seen
    cases mapped : paths.mapM (PatternScan.outcomeIn v c.radius set.detectors root) with
    | error f =>
      simp only [bind, Except.bind, mapped] at seen
      cases seen
    | ok outcomes =>
      simp only [bind, Except.bind, mapped] at seen
      cases seen
      exact ⟨set, outcomes, rfl, mapped, rfl⟩

def prepareScan (site : String) (paths : List Path) (c : Config) (root : Option Path) :
    Survey PatternScan := do
  let set ← DetectorSet.load c.detectorFolders
  set.rejected.forM (noteRejected site)
  let found ← PatternScan.scan c.radius set.detectors site root paths c.workers
  return { found with rejected := (set.rejected.map (·.1)).mergeSort textLessEqual }

theorem quiet_prepareScan (site : String) (paths : List Path) (c : Config) (root : Option Path) :
    Quiet (prepareScan site paths c root) (scanIn · site paths c root) := by
  refine ((DetectorSet.quiet_load c.detectorFolders).bind fun set =>
    (Quiet.forM (fun rejected => .note _ _ _ _) set.rejected).bind fun _ =>
      (PatternScan.quiet_scan c.radius set.detectors site root paths c.workers Pool.inLine).bind fun found =>
        .pure _).congr fun v => ?_
  simp only [scanIn]
  cases DetectorSet.loadIn v c.detectorFolders with
  | error f => rfl
  | ok set => exact bind_assoc (m := Except Failure) _ _ _

theorem runPatternScan_eq (site : String) (paths : List Path) (c : Config) (root : Option Path) :
    runPatternScan site paths c root = (do
      let out ← Survey.ofExcept (c.analysisFolder site)
      let report ← prepareScan site paths c root
      let machine ← Artifact.writeJson (out / machineReportFile) report.toJson
      let human ← Artifact.writeText (out / humanReportFile) (Scan.render report.records)
      Survey.note .info eventLogger ("Pattern scan saved to " ++ out.toString)
        (written site "pattern_scan" (some report.total) machine)
      return (report, machine, human)) := by
  simp only [runPatternScan, prepareScan, bind_assoc, pure_bind]

theorem div_requestSurfaceFile (out : Path) : out / requestSurfaceFile = out.child requestSurfaceFile :=
  Path.div_eq_child rfl

theorem div_machineReportFile (out : Path) : out / machineReportFile = out.child machineReportFile :=
  Path.div_eq_child rfl

theorem div_humanReportFile (out : Path) : out / humanReportFile = out.child humanReportFile :=
  Path.div_eq_child rfl

/-- A scan that succeeds has written its two reports one after the other, on a volume that it had left as
it was. -/
theorem runPatternScan_eq_ok {site : String} {paths : List Path} {c : Config} {root : Option Path}
    {w w' : World} {scan : PatternScan} {machine human : Path}
    (scanned : outcome (runPatternScan site paths c root) w = (.ok (scan, machine, human), w')) :
    ∃ out notices w₁ w₂ notices', c.analysisFolder site = .ok out ∧ scanIn w.volume site paths c root = .ok scan ∧
      outcome (Artifact.writeText (out.child machineReportFile) (Json.print .report scan.toJson))
        { w with notices } = (.ok machine, w₁) ∧
      outcome (Artifact.writeText (out.child humanReportFile) (Scan.render scan.records)) w₁ =
        (.ok human, w₂) ∧
      w' = { w₂ with notices := notices' } := by
  rw [runPatternScan_eq] at scanned
  obtain ⟨out, w₀, located, rest⟩ := outcome_bind_eq_ok scanned
  rw [Survey.outcome_ofExcept] at located
  obtain ⟨folder, rfl⟩ := Prod.mk.inj located
  obtain ⟨report, notices, seen, rest⟩ := (quiet_prepareScan site paths c root).bind_eq_ok rest
  obtain ⟨machine', w₁, first, rest⟩ := outcome_bind_eq_ok rest
  obtain ⟨human', w₂, second, rest⟩ := outcome_bind_eq_ok rest
  rw [outcome_bind_ok (Survey.outcome_note _ _ _ _)] at rest
  obtain ⟨answers, rfl⟩ := Prod.mk.inj rest
  obtain ⟨rfl, paths⟩ := Prod.mk.inj (Except.ok.inj answers)
  obtain ⟨rfl, rfl⟩ := Prod.mk.inj paths
  rw [writeJson_scan, div_machineReportFile] at first
  rw [div_humanReportFile] at second
  exact ⟨out, notices, w₁, w₂, _, folder, seen, first, second, rfl⟩

theorem runRequestSurface_eq_ok {site : String} {paths : List Path} {c : Config} {root : Option Path}
    {w w' : World} {surface : RequestSurface} {path : Path}
    (ran : outcome (runRequestSurface site paths c root) w = (.ok (surface, path), w')) :
    ∃ out notices w₁ notices', c.analysisFolder site = .ok out ∧
      surfaceIn w.volume site paths c root = .ok surface ∧
      outcome (writeText (out.child requestSurfaceFile) (Json.print .report surface.toJson))
        { w with notices } = (.ok path, w₁) ∧
      w' = { w₁ with notices := notices' } := by
  obtain ⟨out, w₀, located, rest⟩ := outcome_bind_eq_ok ran
  rw [Survey.outcome_ofExcept] at located
  obtain ⟨folder, rfl⟩ := Prod.mk.inj located
  obtain ⟨report, notices, seen, rest⟩ :=
    (RequestSurface.quiet_analyze c.senders site root paths c.workers Pool.inLine).bind_eq_ok rest
  obtain ⟨path', w₁, written, rest⟩ := outcome_bind_eq_ok rest
  rw [outcome_bind_ok (Survey.outcome_note _ _ _ _)] at rest
  obtain ⟨answers, rfl⟩ := Prod.mk.inj rest
  obtain ⟨rfl, rfl⟩ := Prod.mk.inj (Except.ok.inj answers)
  rw [writeJson_surface, div_requestSurfaceFile] at written
  exact ⟨out, notices, w₁, _, folder, seen, written, rfl⟩

theorem runTriage_eq_ok {site : String} {c : Config} {w w' : World} {path : Path}
    (ran : outcome (runTriage site c) w = (.ok path, w')) :
    ∃ out w₁ notices', c.analysisFolder site = .ok out ∧
      outcome (Signal.extract (out.child machineReportFile)) w = (.ok path, w₁) ∧
      w' = { w₁ with notices := notices' } := by
  obtain ⟨out, w₀, located, rest⟩ := outcome_bind_eq_ok ran
  rw [Survey.outcome_ofExcept] at located
  obtain ⟨folder, rfl⟩ := Prod.mk.inj located
  obtain ⟨path', w₁, extracted, rest⟩ := outcome_bind_eq_ok rest
  rw [outcome_bind_ok (Survey.outcome_note _ _ _ _)] at rest
  obtain ⟨answers, rfl⟩ := Prod.mk.inj rest
  obtain rfl := Except.ok.inj answers
  rw [div_machineReportFile] at extracted
  exact ⟨out, w₁, _, folder, extracted, rfl⟩

section Forward

variable {site : String} {paths : List Path} {c : Config} {root : Option Path} {w : World} {out : Path}
  {scratch place : Location}

theorem yields_writeText {folder : Path} {name : String} {ready : Volume} {content : Text}
    (proper : name ≠ "..") (landing : Landing w.volume folder name ready scratch place)
    (whole : content.hasSurrogate = false) :
    Yields (writeText (folder.child name) content) w (folder.child name)
      (landed ready name scratch place (Utf8.encode content)) :=
  ⟨w.notices, outcome_writeText proper landing whole⟩

theorem yields_runRequestSurface {surface : RequestSurface} {ready : Volume}
    (located : c.analysisFolder site = .ok out) (seen : surfaceIn w.volume site paths c root = .ok surface)
    (landing : Landing w.volume out requestSurfaceFile ready scratch place)
    (whole : (Json.print .report surface.toJson).hasSurrogate = false) :
    Yields (runRequestSurface site paths c root) w (surface, out.child requestSurfaceFile)
      (landed ready requestSurfaceFile scratch place (Utf8.encode (Json.print .report surface.toJson))) := by
  refine (Yields.ofExcept located w).bind fun _ => ?_
  rw [div_requestSurfaceFile]
  refine Yields.bind ((RequestSurface.quiet_analyze c.senders site root paths c.workers Pool.inLine).yields _ seen) fun _ => ?_
  rw [writeJson_surface]
  refine Yields.bind (yields_writeText (by decide) landing whole) fun _ => ?_
  exact (Yields.note _ _ _ _ _).bind fun _ => .pure _ _

/-- A scan succeeds if its looks do and both of its reports can land. -/
theorem yields_runPatternScan_of_landing {scan : PatternScan} {ready ready' : Volume} {scratch' place' : Location}
    (located : c.analysisFolder site = .ok out) (seen : scanIn w.volume site paths c root = .ok scan)
    (landing : Landing w.volume out machineReportFile ready scratch place)
    (landing' : Landing (landed ready machineReportFile scratch place (Utf8.encode (Json.print .report scan.toJson)))
      out humanReportFile ready' scratch' place')
    (whole : (Json.print .report scan.toJson).hasSurrogate = false)
    (whole' : (Scan.render scan.records).hasSurrogate = false) :
    Yields (runPatternScan site paths c root) w
      (scan, out.child machineReportFile, out.child humanReportFile)
      (landed ready' humanReportFile scratch' place' (Utf8.encode (Scan.render scan.records))) := by
  rw [runPatternScan_eq]
  refine (Yields.ofExcept located w).bind fun _ => ?_
  refine Yields.bind ((quiet_prepareScan site paths c root).yields _ seen) fun _ => ?_
  rw [div_machineReportFile, div_humanReportFile, writeJson_scan]
  refine Yields.bind (yields_writeText (by decide) landing whole) fun _ => ?_
  refine Yields.bind (yields_writeText (by decide) landing' whole') fun _ => ?_
  exact (Yields.note _ _ _ _ _).bind fun _ => .pure _ _

theorem yields_runPatternScan {scan : PatternScan} (located : c.analysisFolder site = .ok out)
    (seen : scanIn w.volume site paths c root = .ok scan) (room : Room w.volume out scratch place)
    (machine : Slot w.volume out place machineReportFile) (human : Slot w.volume out place humanReportFile)
    (whole : (Json.print .report scan.toJson).hasSurrogate = false)
    (whole' : (Scan.render scan.records).hasSurrogate = false) :
    Yields (runPatternScan site paths c root) w
      (scan, out.child machineReportFile, out.child humanReportFile)
      (landed (landed w.volume machineReportFile scratch place (Utf8.encode (Json.print .report scan.toJson)))
        humanReportFile scratch place (Utf8.encode (Scan.render scan.records))) := by
  have room' := room.landed machine (Utf8.encode (Json.print .report scan.toJson))
  have landing := landing_of_room room.made room machine
  exact yields_runPatternScan_of_landing located seen landing
    (landing_of_room room'.made room' (human.landed room _)) whole whole'

end Forward

section Triage

variable {site : String} {c : Config} {w w' : World} {out path : Path} {f : Failure}

theorem outcome_runTriage_ok (located : c.analysisFolder site = .ok out)
    (extracted : outcome (Signal.extract (out.child machineReportFile)) w = (.ok path, w')) :
    ∃ notices, outcome (runTriage site c) w = (.ok path, { w' with notices }) := by
  have begun : outcome (Survey.ofExcept (c.analysisFolder site)) w = (.ok out, w) := by
    rw [Survey.outcome_ofExcept, located]
  rw [runTriage, outcome_bind_ok begun, div_machineReportFile, outcome_bind_ok extracted,
    outcome_bind_ok (Survey.outcome_note _ _ _ _)]
  exact ⟨_, outcome_pure path⟩

theorem outcome_runTriage_error (located : c.analysisFolder site = .ok out)
    (failed : outcome (Signal.extract (out.child machineReportFile)) w = (.error f, w')) :
    outcome (runTriage site c) w = (.error f, w') := by
  have begun : outcome (Survey.ofExcept (c.analysisFolder site)) w = (.ok out, w) := by
    rw [Survey.outcome_ofExcept, located]
  rw [runTriage, outcome_bind_ok begun, div_machineReportFile, outcome_bind_error failed]

/-- The signals of a report that stands in its folder find a place beside it. -/
theorem yields_runTriage {records : List Scan.Record} {spot scratch place : Location} {count : Nat}
    (located : c.analysisFolder site = .ok out) (room : Room w.volume out scratch place)
    (stands : w.volume.lookup true (out.child machineReportFile) =
      .ok ⟨spot, some (.file (Utf8.encode (Json.print .report (.array (records.map Scan.Record.toJson)))))⟩)
    (whole : (Json.print .report (.array (records.map Scan.Record.toJson))).hasSurrogate = false)
    (whole' : (Json.print .report (.array ((Signal.ofScan records).map Signal.toJson))).hasSurrogate = false)
    (next : Next w.volume out Signal.fileStart ".json" w.clock count) :
    Yields (runTriage site c) w (out.child (candidateName Signal.fileStart ".json" w.clock count))
      (landed w.volume (candidateName Signal.fileStart ".json" w.clock count) scratch place
        (Utf8.encode (Json.print .report (.array ((Signal.ofScan records).map Signal.toJson))))) := by
  obtain ⟨total, extracted⟩ := Signal.outcome_extract stands whole
  have searched : outcome (uniquePath (out.child machineReportFile).parent Signal.fileStart ".json") w =
      (.ok (out.child (candidateName Signal.fileStart ".json" w.clock count)), w) := by
    rw [Path.parent_child]
    exact outcome_uniquePath_ok (by decide) (by decide) next
  have written := outcome_writeText (candidateName_proper _ _ _ _) (next.landing room) whole'
  rw [Signal.save, outcome_bind_ok searched, writeJson_signals, outcome_bind_ok written,
    outcome_bind_ok (Survey.outcome_note _ _ _ _), outcome_pure] at extracted
  obtain ⟨notices, triaged⟩ := outcome_runTriage_ok located extracted
  exact ⟨notices, triaged⟩

end Triage

end SiteSurvey.Analysis
