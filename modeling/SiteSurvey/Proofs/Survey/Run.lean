import SiteSurvey.Proofs.Artifact.Batch
import SiteSurvey.Proofs.Survey.Corpus

set_option autoImplicit false

namespace SiteSurvey.Analysis

open Artifact Volume

def withSurface (v : Volume) (scratch place : Location) (surface : RequestSurface) : Volume :=
  landed v requestSurfaceFile scratch place (Utf8.encode (Json.print .report surface.toJson))

def withScan (v : Volume) (scratch place : Location) (scan : PatternScan) : Volume :=
  landed (landed v machineReportFile scratch place (Utf8.encode (Json.print .report scan.toJson)))
    humanReportFile scratch place (Utf8.encode (Scan.render scan.records))

def signalsText (scan : PatternScan) : Text :=
  Json.print .report (.array ((Signal.ofScan scan.records).map Signal.toJson))

def withSignals (v : Volume) (scratch place : Location) (name : String) (scan : PatternScan) : Volume :=
  landed v name scratch place (Utf8.encode (signalsText scan))

/-- The volume after a run, from the volume on which the folder for the reports has been made. -/
def reported (v : Volume) (scratch place : Location) (name : String) (surface : RequestSurface)
    (scan : PatternScan) : Volume :=
  withSignals (withScan (withSurface v scratch place surface) scratch place scan) scratch place name scan

def surfaceBytes (surface : RequestSurface) : ByteArray :=
  Utf8.encode (Json.print .report surface.toJson)

def machineBytes (scan : PatternScan) : ByteArray :=
  Utf8.encode (Json.print .report scan.toJson)

def scanReports (scan : PatternScan) : List (String × ByteArray) :=
  [(machineReportFile, machineBytes scan), (humanReportFile, Utf8.encode (Scan.render scan.records))]

def reportsOf (surface : RequestSurface) (scan : PatternScan) : List (String × ByteArray) :=
  (requestSurfaceFile, surfaceBytes surface) :: scanReports scan

def filesOf (name : String) (surface : RequestSurface) (scan : PatternScan) : List (String × ByteArray) :=
  reportsOf surface scan ++ [(name, Utf8.encode (signalsText scan))]

theorem reported_eq (v : Volume) (scratch place : Location) (name : String) (surface : RequestSurface)
    (scan : PatternScan) :
    reported v scratch place name surface scan = landedAll v scratch place (filesOf name surface scan) := rfl

def signalsName (m : Moment) (count : Nat) : String :=
  candidateName Signal.fileStart ".json" m count

def reportFiles : List String :=
  [requestSurfaceFile, machineReportFile, humanReportFile]

theorem mem_scanReports {scan : PatternScan} {f : String × ByteArray} (found : f ∈ scanReports scan) :
    f.1 ∈ reportFiles :=
  List.mem_cons_of_mem _ (List.mem_map_of_mem (f := Prod.fst) found)

theorem mem_reportsOf {surface : RequestSurface} {scan : PatternScan} {f : String × ByteArray}
    (found : f ∈ reportsOf surface scan) : f.1 ∈ reportFiles :=
  List.mem_map_of_mem (f := Prod.fst) found

def artifactsIn (out : Path) (name : String) : Artifacts :=
  { requestSurface := out.child requestSurfaceFile, machineReport := out.child machineReportFile,
    humanReport := out.child humanReportFile, signals := out.child name }

/-- A volume that has room for the reports of a site. `ready` is the volume once the folder for them has
been made. -/
structure Prepared (v : Volume) (out : Path) (ready : Volume) (scratch place : Location) : Prop where
  made : outcome (ensureFolders out) v = (.ok (), ready)
  room : Room ready out scratch place
  slots : ∀ name ∈ reportFiles, Slot ready out place name

/-- A volume on which the reports of a site can be written at a moment. -/
structure Writable (v : Volume) (out : Path) (m : Moment) (ready : Volume) (scratch place : Location) :
    Prop extends Prepared v out ready scratch place where
  vacant : Vacant ready out place Signal.fileStart ".json" m

theorem signalsName_ne {name : String} (m : Moment) (report : name ∈ reportFiles) (count : Nat) :
    signalsName m count ≠ name := by
  intro same
  have inside := mem_candidateName Signal.fileStart ".json" m count
  rw [← signalsName, same] at inside
  have none : ∀ name ∈ reportFiles, 'Z' ∉ name.toList := by decide
  exact none name report inside

theorem hostname_of_analysisFolder {c : Config} {site : String} {out : Path}
    (located : c.analysisFolder site = .ok out) : ∃ host, Site.hostname site = .ok host := by
  unfold Config.analysisFolder at located
  split at located
  · cases located
  · rename_i host found
    exact ⟨host, found⟩

section Writing

variable {v ready : Volume} {out : Path} {scratch place : Location}

theorem Prepared.landed {name : String} {bytes : ByteArray} (prepared : Prepared v out ready scratch place)
    (report : name ∈ reportFiles) :
    Prepared (landed ready name scratch place bytes) out (landed ready name scratch place bytes) scratch place where
  made := (prepared.room.landed (prepared.slots name report) bytes).made
  room := prepared.room.landed (prepared.slots name report) bytes
  slots := fun other found => (prepared.slots other found).landed prepared.room bytes

theorem Prepared.withSurface (prepared : Prepared v out ready scratch place) (surface : RequestSurface) :
    Prepared (withSurface ready scratch place surface) out (withSurface ready scratch place surface) scratch place :=
  prepared.landed (by decide)

theorem Prepared.withScan (prepared : Prepared v out ready scratch place) (scan : PatternScan) :
    Prepared (withScan ready scratch place scan) out (withScan ready scratch place scan) scratch place :=
  (prepared.landed (by decide)).landed (by decide)

theorem Prepared.landing (prepared : Prepared v out ready scratch place) :
    Landing v out requestSurfaceFile ready scratch place :=
  landing_of_room prepared.made prepared.room (prepared.slots _ (by decide))

theorem lookup_withScan (prepared : Prepared v out ready scratch place) (scan : PatternScan) :
    (withScan ready scratch place scan).lookup true (out.child machineReportFile) =
      .ok ⟨place.child (.plain machineReportFile),
        some (.file (Utf8.encode (Json.print .report scan.toJson)))⟩ := by
  have after := prepared.withScan scan
  have plain := after.room.there.isPlain.child machineReportFile
  have file : (Analysis.withScan ready scratch place scan).get? (place.child (.plain machineReportFile)) =
      some (.file (Utf8.encode (Json.print .report scan.toJson))) := by
    have other : place.child (.plain machineReportFile) ≠ place.child (.plain humanReportFile) :=
      fun same => absurd (child_injective same) (by decide)
    rw [Analysis.withScan, get?_landed plain, if_neg other, get?_landed plain, if_pos rfl]
  rw [(after.slots _ (by decide)).lookup after.room, file]

/-- The reports take no candidate for the signals away. -/
theorem next_of_vacant {m : Moment} (files : List (String × ByteArray)) (room : Room v out scratch place)
    (slots : ∀ name ∈ reportFiles, Slot v out place name) (reports : ∀ f ∈ files, f.1 ∈ reportFiles)
    (vacant : Vacant v out place Signal.fileStart ".json" m) :
    ∃ count, Next (landedAll v scratch place files) out Signal.fileStart ".json" m count ∧
      v.get? (place.child (.plain (signalsName m count))) = none := by
  have after := room.landedAll fun f found => slots f.1 (reports f found)
  refine vacant.next after.there fun j => ?_
  exact get?_landedAll_of_ne (room.there.isPlain.child _)
    fun f found same => signalsName_ne m (reports f found) j (child_injective same)

end Writing

section Sample

-- A folder with one script, and a folder for the reports on it.
def sampleVolume (script : String) : Volume where
  entries :=
    [(⟨0, [.plain "src"]⟩, .folder),
     (⟨0, [.plain "src", .plain "a.js"]⟩, .file (Utf8.encode (Text.ofString script))),
     (⟨0, [.plain "out"]⟩, .folder),
     (⟨0, [.plain "out", .plain "x"]⟩, .folder),
     (⟨0, [.plain "out", .plain "x", .plain "analysis"]⟩, .folder)]
  serial := 0

def sampleWorld (script : String) : World where
  volume := sampleVolume script
  clock := Moment.ofSeconds 0
  notices := []

def sampleConfig : Config :=
  { Config.usual with outputRoot := ⟨.relative, ["out"]⟩ }

def sampleSource : Path := ⟨.relative, ["src"]⟩

def sampleScript : Path := ⟨.relative, ["src", "a.js"]⟩

def sampleOut : Path := ⟨.relative, ["out", "x", "analysis"]⟩

def samplePlace : Location := ⟨0, [.plain "out", .plain "x", .plain "analysis"]⟩

theorem short_sample : ∀ j ≤ 20, Short sampleOut Signal.fileStart ".json" (Moment.ofSeconds 0) j := by
  intro j few
  exact short_of_few (by omega) (by decide) (by decide) (by decide) (by decide) (by decide)

theorem writable_of_solid {v : Volume} (there : Folder v sampleOut samplePlace)
    (solid : ∀ name, Solid v (samplePlace.child (.plain name))) (few : v.entries.length ≤ 20) :
    Writable v sampleOut (Moment.ofSeconds 0) v samplePlace samplePlace where
  made := ensureFolders_of_folder there
  room := ⟨there, there⟩
  slots := by
    have named : ∀ name ∈ reportFiles, name ≠ ".." ∧ name.utf8ByteSize + temporaryExtra ≤ maxName ∧
        ((sampleOut.child name).names.any fun name => name.toList.contains '\x00') = false ∧
        (sampleOut.child name).toString.utf8ByteSize ≤ maxPath := by decide
    intro name found
    obtain ⟨proper, fits, clean, short⟩ := named name found
    exact ⟨proper, fits, ⟨clean, short⟩, solid name⟩
  vacant := fun j taken => ⟨short_sample j (Nat.le_trans (le_length_of_taken taken) few), (solid _).not_link⟩

variable (script : String)

theorem folder_sampleSource : Folder (sampleVolume script) sampleSource ⟨0, [.plain "src"]⟩ :=
  lookup_eq_ok_iff.mpr ⟨by unfold Askable; decide, rfl, _, .down rfl (by decide) (by decide) rfl rfl .here⟩

theorem room_sample : Room (sampleVolume script) sampleOut samplePlace samplePlace := by
  have there : Folder (sampleVolume script) sampleOut samplePlace :=
    lookup_eq_ok_iff.mpr ⟨by unfold Askable; decide, rfl, _,
      .down rfl (by decide) (by decide) rfl rfl (.down rfl (by decide) (by decide) rfl rfl
        (.down rfl (by decide) (by decide) rfl rfl .here))⟩
  exact ⟨there, there⟩

theorem located_sample : sampleConfig.analysisFolder "x" = .ok sampleOut := rfl

theorem get?_sample (name : String) : (sampleVolume script).get? (samplePlace.child (.plain name)) = none := by
  simp [get?, sampleVolume, samplePlace, Location.child]

theorem solid_sample (name : String) : Solid (sampleVolume script) (samplePlace.child (.plain name)) := by
  intro e found
  cases (get?_sample script name).symm.trans found

theorem writable_sample : Writable (sampleVolume script) sampleOut (Moment.ofSeconds 0) (sampleVolume script)
    samplePlace samplePlace :=
  writable_of_solid (room_sample script).there (solid_sample script) (by simp [sampleVolume])

theorem nullFree_sample : NullFree (sampleVolume script) := by
  have names : ∀ l ∈ (sampleVolume script).entries.map (·.1), ∀ n ∈ l.names, isNullFree n.text = true := by
    change ∀ l ∈ ([⟨0, [.plain "src"]⟩, ⟨0, [.plain "src", .plain "a.js"]⟩, ⟨0, [.plain "out"]⟩,
      ⟨0, [.plain "out", .plain "x"]⟩, samplePlace] : List Location), ∀ n ∈ l.names, isNullFree n.text = true
    decide
  exact fun e found => names e.1 (List.mem_map_of_mem found)

theorem sound_sample : Sound (sampleVolume script) where
  distinct := by
    change ([⟨0, [.plain "src"]⟩, ⟨0, [.plain "src", .plain "a.js"]⟩, ⟨0, [.plain "out"]⟩,
      ⟨0, [.plain "out", .plain "x"]⟩, samplePlace] : List Location).Nodup
    decide
  named := by simp [sampleVolume]
  rooted := List.forall_mem_cons.mpr ⟨rfl, List.forall_mem_cons.mpr ⟨rfl, List.forall_mem_cons.mpr ⟨rfl,
    List.forall_mem_cons.mpr ⟨rfl, List.forall_mem_singleton.mpr rfl⟩⟩⟩⟩
  proper := by simp [sampleVolume]
  temporary := by simp [sampleVolume]

theorem sought?_sample (suffixes : List String)
    (fits : suffixes.contains (Text.lowerString sampleScript.suffix) = true) (bytes : ByteArray) :
    Source.sought? sampleSource ⟨0, [.plain "src"]⟩ suffixes (⟨0, [.plain "src", .plain "a.js"]⟩, .file bytes) =
      some sampleScript :=
  if_pos (show (true && suffixes.contains (Text.lowerString sampleScript.suffix)) = true by rw [fits]; rfl)

theorem overlong_sample : Source.overlong (sampleVolume script) sampleSource ⟨0, [.plain "src"]⟩
    (sampleConfig.extensions.map Text.lowerString) = [] := by
  have found := sought?_sample (sampleConfig.extensions.map Text.lowerString) rfl
  have short : Source.isLong sampleScript = false := by decide
  simp only [Source.overlong, sampleVolume, List.filterMap_cons, found, Source.sought?_folder, Option.filter, short]
  rfl

theorem collectIn_sample : Source.collectIn (sampleVolume script) sampleSource sampleConfig.extensions =
    .ok [sampleScript] := by
  have found := sought?_sample (sampleConfig.extensions.map Text.lowerString) rfl
  have short : Source.isLong sampleScript = false := by decide
  have below : Source.below (sampleVolume script) sampleSource ⟨0, [.plain "src"]⟩
      (sampleConfig.extensions.map Text.lowerString) = [sampleScript] := by
    simp only [Source.below, sampleVolume, List.filterMap_cons, found, Source.sought?_folder, Option.filter, short]
    rfl
  rw [Source.collectIn_of_folder _ (folder_sampleSource script), Source.search_eq_ok (overlong_sample script), below,
    Path.sorted, List.mergeSort_singleton]

def sampleRead : Source where
  path := sampleScript
  text := Source.unifyLines (Utf8.decodeLossy (Utf8.encode (Text.ofString script)))
  displayName := "a.js"

theorem readIn_sample (small : (Utf8.encode (Text.ofString script)).size ≤ Source.maxSize) :
    Source.readIn (sampleVolume script) sampleScript (some sampleSource) = .ok (sampleRead script) := by
  have there := folder_sampleSource script
  have file : (sampleVolume script).get? ⟨0, [.plain "src", .plain "a.js"]⟩ =
      some (.file (Utf8.encode (Text.ofString script))) := rfl
  have found : (sampleVolume script).lookup true sampleScript =
      .ok ⟨⟨0, [.plain "src", .plain "a.js"]⟩, some (.file (Utf8.encode (Text.ofString script)))⟩ := by
    have reached : (sampleVolume script).lookup true (sampleSource.child "a.js") = _ :=
      lookup_child_through (by decide) there (by unfold Askable; decide) (by decide)
        fun target link => by cases file.symm.trans link
    exact reached
  have named : Source.nameFor (sampleVolume script) sampleScript (some sampleSource) = .ok "a.js" :=
    Source.nameFor_of_locate (locate_of_lookup found) (locate_of_lookup there)
  rw [Source.readIn_eq, found, named]
  exact Source.readEntry_file small _ _

theorem findingsIn_sample (senders : Request.Senders)
    (small : (Utf8.encode (Text.ofString script)).size ≤ Source.maxSize) :
    RequestSurface.findingsIn (sampleVolume script) senders (some sampleSource) sampleScript =
      (RequestSurface.findingsOf senders (sampleRead script)).getD [] := by
  rw [RequestSurface.findingsIn, readIn_sample script small]

end Sample

section Whole

variable {site : String} {folder out : Path} {c : Config} {w : World} {ready : Volume}
  {scratch place : Location} {count : Nat} {paths : List Path} {surface : RequestSurface}

/-- A run succeeds if its looks do, the findings can be encoded and there is room for what follows once the
report on requests has landed. -/
theorem yields_run_of_landing {scan : PatternScan} (located : c.analysisFolder site = .ok out)
    (collected : Source.collectIn w.volume folder c.extensions = .ok paths)
    (seen : surfaceIn w.volume site paths c (some folder) = .ok surface)
    (seen' : scanIn (withSurface ready scratch place surface) site paths c (some folder) = .ok scan)
    (landing : Landing w.volume out requestSurfaceFile ready scratch place)
    (prepared : Prepared (withSurface ready scratch place surface) out (withSurface ready scratch place surface)
      scratch place)
    (next : Next (withScan (withSurface ready scratch place surface) scratch place scan) out Signal.fileStart ".json"
      w.clock count)
    (whole : (Json.print .report surface.toJson).hasSurrogate = false) :
    Yields (run site folder c) w
      { site, sources := paths.length, requestSurface := surface, patternScan := scan,
        artifacts := artifactsIn out (signalsName w.clock count) }
      (reported ready scratch place (signalsName w.clock count) surface scan) := by
  obtain ⟨host, named⟩ := hostname_of_analysisFolder located
  have records := isWhole_of_scanIn seen'
  have machine := prepared.slots machineReportFile (by decide)
  have human := prepared.slots humanReportFile (by decide)
  refine (Yields.ofExcept named w).bind fun _ => ?_
  refine Yields.bind ((Source.quiet_collect folder c.extensions).yields _ collected) fun _ => ?_
  refine (Yields.note _ _ _ _ _).bind fun _ => ?_
  refine Yields.bind (yields_runRequestSurface located seen landing whole) fun _ => ?_
  refine Yields.bind (yields_runPatternScan located seen' prepared.room machine human
    (Scan.hasSurrogate_records records) (Scan.hasSurrogate_render records)) fun _ => ?_
  refine Yields.bind (yields_runTriage located (prepared.withScan scan).room (lookup_withScan prepared scan)
    (Scan.hasSurrogate_records records) (Signal.hasSurrogate_signals records) next) fun _ => ?_
  exact .pure _ _

theorem yields_run {scan : PatternScan} (located : c.analysisFolder site = .ok out)
    (collected : Source.collectIn w.volume folder c.extensions = .ok paths)
    (seen : surfaceIn w.volume site paths c (some folder) = .ok surface)
    (seen' : scanIn (withSurface ready scratch place surface) site paths c (some folder) = .ok scan)
    (writable : Writable w.volume out w.clock ready scratch place)
    (whole : (Json.print .report surface.toJson).hasSurrogate = false) :
    ∃ count, ready.get? (place.child (.plain (signalsName w.clock count))) = none ∧
      Short out Signal.fileStart ".json" w.clock count ∧
      Yields (run site folder c) w
        { site, sources := paths.length, requestSurface := surface, patternScan := scan,
          artifacts := artifactsIn out (signalsName w.clock count) }
        (reported ready scratch place (signalsName w.clock count) surface scan) := by
  obtain ⟨count, next, free⟩ := next_of_vacant (reportsOf surface scan) writable.room writable.slots
    (fun _ => mem_reportsOf) writable.vacant
  exact ⟨count, free, next.short, yields_run_of_landing located collected seen seen' writable.landing
    (writable.toPrepared.withSurface surface) next whole⟩

theorem breaks_run (located : c.analysisFolder site = .ok out)
    (collected : Source.collectIn w.volume folder c.extensions = .ok paths)
    (seen : surfaceIn w.volume site paths c (some folder) = .ok surface)
    (landing : Landing w.volume out requestSurfaceFile ready scratch place)
    (broken : (Json.print .report surface.toJson).hasSurrogate = true) : Breaks (run site folder c) w := by
  obtain ⟨host, named⟩ := hostname_of_analysisFolder located
  have first : ∀ notices, Breaks (runRequestSurface site paths c (some folder)) { w with notices } := by
    intro notices
    refine (Yields.ofExcept located _).breaks fun _ => ?_
    rw [div_requestSurfaceFile]
    refine Yields.breaks ((RequestSurface.quiet_analyze c.senders site (some folder) paths c.workers Pool.inLine).yields _ seen)
      fun notices => Breaks.bind _ ?_
    obtain ⟨message, failed⟩ := outcome_writeText_surrogate (w := { w with notices }) landing broken
    rw [writeJson_surface]
    exact ⟨message, _, failed⟩
  refine (Yields.ofExcept named w).breaks fun _ => ?_
  refine Yields.breaks ((Source.quiet_collect folder c.extensions).yields _ collected) fun _ => ?_
  exact (Yields.note _ _ _ _ _).breaks fun notices => (first notices).bind _

theorem run_of_collect_error {host : String} {f : Failure} (named : Site.hostname site = .ok host)
    (failed : Source.collectIn w.volume folder c.extensions = .error f) :
    ∃ w', outcome (run site folder c) w = (.error f, w') := by
  have begun : outcome (Survey.ofExcept (Site.hostname site)) w = (.ok host, w) := by
    rw [Survey.outcome_ofExcept, named]
  obtain ⟨added, stopped⟩ := Source.quiet_collect folder c.extensions w
  simp only [failed] at stopped
  rw [run, outcome_bind_ok begun, outcome_bind_error stopped]
  exact ⟨_, rfl⟩

end Whole

theorem near_sample {script : String} {P : Path → Prop} {Q : Prop}
    (either : (∃ p ∈ Source.overlong (sampleVolume script) sampleSource ⟨0, [.plain "src"]⟩
      (sampleConfig.extensions.map Text.lowerString), P p) ∨
      Source.overlong (sampleVolume script) sampleSource ⟨0, [.plain "src"]⟩
        (sampleConfig.extensions.map Text.lowerString) = [] ∧ Q) : Q := by
  rcases either with ⟨p, far, _⟩ | ⟨_, done⟩
  · rw [overlong_sample] at far
    cases far
  · exact done

end SiteSurvey.Analysis
