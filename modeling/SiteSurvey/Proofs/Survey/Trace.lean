import SiteSurvey.Proofs.Artifact.Batch
import SiteSurvey.Proofs.Survey.Run

set_option autoImplicit false

namespace SiteSurvey

open Artifact Volume

namespace Artifact

variable {v ready ready' : Volume} {folder : Path} {name : String} {scratch scratch' place place' : Location}

theorem Landing.of_room (landing : Landing v folder name ready scratch' place')
    (room : Room v folder scratch place) : ready = v ∧ scratch' = scratch ∧ place' = place := by
  obtain rfl := (Prod.mk.inj (landing.made.symm.trans room.made)).2
  exact ⟨rfl, landing.room.unique room.drafts, landing.there.unique room.there⟩

section Further

variable (names : List String) (files : List (String × ByteArray))

theorem Landing.slot (made : outcome (ensureFolders folder) v = (.ok (), ready))
    (room : Room ready folder scratch place) (slots : ∀ other ∈ names, Slot ready folder place other)
    (taken : files.map (·.1) = names) (other : name ∉ names) (proper : name ≠ "..")
    (unlinked : Unlinked v (folder.child name))
    (landing : Landing (landedAll ready scratch place files) folder name ready' scratch' place') :
    Slot ready folder place name ∧ ready' = landedAll ready scratch place files ∧ scratch' = scratch ∧
      place' = place := by
  have inside : ∀ f ∈ files, f.1 ∈ names := fun f found => taken ▸ List.mem_map_of_mem found
  obtain ⟨rfl, rfl, rfl⟩ := landing.of_room (room.landedAll fun f found => slots _ (inside f found))
  have free := landing.free
  rw [get?_landedAll_of_ne (room.there.isPlain.child name)
    fun f found same => other (child_injective same ▸ inside f found)] at free
  have noLink := unlinked.not_link proper made room.there landing.askable landing.fits
  exact ⟨⟨proper, landing.fits, landing.askable, solid_of_ne free noLink⟩, rfl, rfl, rfl⟩

theorem landedAll_of_writeText {w w' : World} {content : Text} {answer : Path}
    (made : outcome (ensureFolders folder) v = (.ok (), ready))
    (room : Room ready folder scratch place) (slots : ∀ other ∈ names, Slot ready folder place other)
    (taken : files.map (·.1) = names) (other : name ∉ names) (proper : name ≠ "..")
    (unlinked : Unlinked v answer) (here : w.volume = landedAll ready scratch place files)
    (written : outcome (writeText (folder.child name) content) w = (.ok answer, w')) :
    content.hasSurrogate = false ∧ answer = folder.child name ∧ Slot ready folder place name ∧
      w' = { w with volume := landedAll ready scratch place (files ++ [(name, Utf8.encode content)]) } := by
  obtain ⟨whole, rfl, ready', scratch', place', landing, rfl⟩ := landing_of_writeText proper written
  rw [here] at landing
  obtain ⟨slot, rfl, rfl, rfl⟩ := landing.slot names files made room slots taken other proper unlinked
  rw [landedAll_append]
  exact ⟨whole, rfl, slot, rfl⟩

end Further

end Artifact

def Artifacts.paths (a : Artifacts) : List Path :=
  [a.requestSurface, a.machineReport, a.humanReport, a.signals]

namespace Analysis

theorem paths_artifactsIn (out : Path) (name : String) :
    (artifactsIn out name).paths = (reportFiles ++ [name]).map out.child := rfl

variable {site : String} {folder : Path} {c : Config} {w w' : World} {a : Analysis}

theorem stages_of_run (ran : outcome (run site folder c) w = (.ok a, w')) :
    ∃ paths w₁ w₂ notices,
      Source.collectIn w.volume folder c.extensions = .ok paths ∧
      outcome (runRequestSurface site paths c (some folder)) { w with notices } =
        (.ok (a.requestSurface, a.artifacts.requestSurface), w₁) ∧
      outcome (runPatternScan site paths c (some folder)) w₁ =
        (.ok (a.patternScan, a.artifacts.machineReport, a.artifacts.humanReport), w₂) ∧
      outcome (runTriage site c) w₂ = (.ok a.artifacts.signals, w') := by
  obtain ⟨host, w₀, named, rest⟩ := outcome_bind_eq_ok ran
  rw [Survey.outcome_ofExcept] at named
  obtain ⟨_, rfl⟩ := Prod.mk.inj named
  obtain ⟨paths, notices, collected, rest⟩ := (Source.quiet_collect folder c.extensions).bind_eq_ok rest
  rw [outcome_bind_ok (Survey.outcome_note _ _ _ _)] at rest
  obtain ⟨⟨surface, path⟩, w₁, first, rest⟩ := outcome_bind_eq_ok rest
  obtain ⟨⟨scan, machine, human⟩, w₂, second, rest⟩ := outcome_bind_eq_ok rest
  obtain ⟨signals, w₃, third, rest⟩ := outcome_bind_eq_ok rest
  obtain ⟨answers, rfl⟩ := Prod.mk.inj rest
  obtain rfl := Except.ok.inj answers
  exact ⟨paths, w₁, w₂, _, collected, first, second, third⟩

section Stages

variable {paths : List Path} {root : Option Path} {out : Path} {v ready : Volume} {scratch place : Location}
  {surface : RequestSurface} {scan : PatternScan}

theorem files_of_runRequestSurface {path : Path}
    (ran : outcome (runRequestSurface site paths c root) w = (.ok (surface, path), w'))
    (unlinked : Unlinked w.volume path) :
    ∃ out ready scratch place, c.analysisFolder site = .ok out ∧
      surfaceIn w.volume site paths c root = .ok surface ∧
      (Json.print .report surface.toJson).hasSurrogate = false ∧ path = out.child requestSurfaceFile ∧
      outcome (ensureFolders out) w.volume = (.ok (), ready) ∧ Room ready out scratch place ∧
      Slot ready out place requestSurfaceFile ∧ w'.clock = w.clock ∧
      w'.volume = withSurface ready scratch place surface := by
  obtain ⟨out, notices, w₁, _, located, seen, written, rfl⟩ := runRequestSurface_eq_ok ran
  obtain ⟨whole, rfl, ready, scratch, place, landing, rfl⟩ :=
    landing_of_writeText (by decide) written
  have room : Room ready out scratch place := ⟨landing.room, landing.there⟩
  obtain ⟨slot, _⟩ := Landing.slot [] [] landing.made room (by simp) rfl (by simp) (by decide) unlinked
    { landing with made := room.made }
  exact ⟨out, ready, scratch, place, located, seen, whole, rfl, landing.made, room, slot, rfl, rfl⟩

theorem files_of_runPatternScan {machine human : Path} (located : c.analysisFolder site = .ok out)
    (made : outcome (ensureFolders out) v = (.ok (), ready)) (room : Room ready out scratch place)
    (slot : Slot ready out place requestSurfaceFile) (here : w.volume = withSurface ready scratch place surface)
    (ran : outcome (runPatternScan site paths c root) w = (.ok (scan, machine, human), w'))
    (unlinked : Unlinked v machine) (unlinked' : Unlinked v human) :
    scanIn (withSurface ready scratch place surface) site paths c root = .ok scan ∧
      (Json.print .report scan.toJson).hasSurrogate = false ∧ machine = out.child machineReportFile ∧
      human = out.child humanReportFile ∧ (∀ name ∈ reportFiles, Slot ready out place name) ∧
      w'.clock = w.clock ∧ w'.volume = withScan (withSurface ready scratch place surface) scratch place scan := by
  obtain ⟨out', notices, w₁, w₂, _, located', scanned, written, written', rfl⟩ := runPatternScan_eq_ok ran
  obtain rfl := Except.ok.inj (located.symm.trans located')
  obtain ⟨whole, rfl, slot', rfl⟩ := landedAll_of_writeText (w := { w with notices }) [requestSurfaceFile]
    [(requestSurfaceFile, surfaceBytes surface)] made room (List.forall_mem_singleton.mpr slot) rfl
    (by decide) (by decide) unlinked here written
  have slots : ∀ name ∈ [requestSurfaceFile, machineReportFile], Slot ready out place name :=
    List.forall_mem_cons.mpr ⟨slot, List.forall_mem_singleton.mpr slot'⟩
  obtain ⟨_, rfl, slot'', rfl⟩ := landedAll_of_writeText _
    [(requestSurfaceFile, surfaceBytes surface), (machineReportFile, machineBytes scan)] made room slots
    rfl (by decide) (by decide) unlinked' rfl written'
  rw [here] at scanned
  exact ⟨scanned, whole, rfl, rfl, List.forall_mem_cons.mpr
    ⟨slot, List.forall_mem_cons.mpr ⟨slot', List.forall_mem_singleton.mpr slot''⟩⟩, rfl, rfl⟩

theorem files_of_runTriage {path : Path} (located : c.analysisFolder site = .ok out)
    (prepared : Prepared v out ready scratch place)
    (here : w.volume = withScan (withSurface ready scratch place surface) scratch place scan)
    (whole : (Json.print .report scan.toJson).hasSurrogate = false)
    (ran : outcome (runTriage site c) w = (.ok path, w')) (unlinked : Unlinked v path) :
    ∃ count, path = out.child (signalsName w.clock count) ∧ Slot ready out place (signalsName w.clock count) ∧
      w'.volume = reported ready scratch place (signalsName w.clock count) surface scan := by
  obtain ⟨out', w₁, _, located', extracted, rfl⟩ := runTriage_eq_ok ran
  obtain rfl := Except.ok.inj (located.symm.trans located')
  have stands := lookup_withScan (prepared.withSurface surface) scan
  obtain ⟨total, same⟩ := Signal.outcome_extract (here ▸ stands) whole
  rw [same] at extracted
  obtain ⟨count, _, _, _, _, answers, _, landing, rfl⟩ := Signal.landing_of_save extracted
  rw [Path.parent_child] at answers landing
  subst answers
  rw [here] at landing
  -- No candidate has the name of a report, so the signals land beside all three.
  have new : signalsName w.clock count ∉ reportFiles := fun found => signalsName_ne w.clock found count rfl
  obtain ⟨slot, rfl, rfl, rfl⟩ := Landing.slot reportFiles
    (reportsOf surface scan) prepared.made prepared.room prepared.slots rfl new (candidateName_proper _ _ _ _)
    unlinked landing
  exact ⟨count, rfl, slot, rfl⟩

end Stages

/-- How a run came about that succeeds and replaces no links. -/
structure Ran (site : String) (folder : Path) (c : Config) (w : World) (a : Analysis) (w' : World) (out : Path)
    (paths : List Path) (ready : Volume) (scratch place : Location) (count : Nat) : Prop where
  located : c.analysisFolder site = .ok out
  collected : Source.collectIn w.volume folder c.extensions = .ok paths
  seen : surfaceIn w.volume site paths c (some folder) = .ok a.requestSurface
  whole : (Json.print .report a.requestSurface.toJson).hasSurrogate = false
  scanned : scanIn (withSurface ready scratch place a.requestSurface) site paths c (some folder) = .ok a.patternScan
  prepared : Prepared w.volume out ready scratch place
  slot : Slot ready out place (signalsName w.clock count)
  volume : w'.volume = reported ready scratch place (signalsName w.clock count) a.requestSurface a.patternScan
  artifacts : a.artifacts = artifactsIn out (signalsName w.clock count)

theorem ran_of_run (ran : outcome (run site folder c) w = (.ok a, w'))
    (unlinked : ∀ p ∈ a.artifacts.paths, Unlinked w.volume p) :
    ∃ out paths ready scratch place count, Ran site folder c w a w' out paths ready scratch place count := by
  simp only [Artifacts.paths, List.forall_mem_cons] at unlinked
  obtain ⟨unlinked₁, unlinked₂, unlinked₃, unlinked₄, _⟩ := unlinked
  obtain ⟨paths, w₁, w₂, notices, collected, first, second, third⟩ := stages_of_run ran
  obtain ⟨out, ready, scratch, place, located, seen, whole, path₁, made, room, slot, clock₁, volume₁⟩ :=
    files_of_runRequestSurface first unlinked₁
  obtain ⟨scanned, whole', path₂, path₃, slots, clock₂, volume₂⟩ :=
    files_of_runPatternScan located made room slot volume₁ second unlinked₂ unlinked₃
  have prepared : Prepared w.volume out ready scratch place := ⟨made, room, slots⟩
  -- The triage looks at the clock, which none of the stages before it has moved.
  obtain ⟨count, path₄, slot', volume⟩ :=
    files_of_runTriage located prepared volume₂ whole' third unlinked₄
  rw [clock₂, clock₁] at path₄ slot' volume
  exact ⟨out, paths, ready, scratch, place, count,
    { located, collected, seen, whole, scanned, prepared, slot := slot', volume,
      artifacts := by rw [artifactsIn, ← path₁, ← path₂, ← path₃, ← path₄] }⟩

end Analysis

end SiteSurvey
