import SiteSurvey.Proofs.Survey.Stable
import SiteSurvey.Proofs.Survey.Trace

set_option autoImplicit false

namespace SiteSurvey.Analysis

open Artifact Volume

/-- The endings of what a run writes, with that of the files on the way. -/
def ownSuffixes : List String :=
  [".json", ".txt", ".tmp"]

section Names

variable {extensions : List String}

theorem skips_of_own (foreign : ∀ e ∈ extensions, Text.lowerString e ∉ ownSuffixes) {text : String}
    (own : Text.lowerString (Path.suffixOf text) ∈ ownSuffixes) :
    Source.Skips (extensions.map Text.lowerString) text := by
  unfold Source.Skips
  rw [Bool.eq_false_iff]
  intro found
  obtain ⟨e, inside, same⟩ := List.mem_map.mp (List.contains_iff_mem.mp found)
  rw [← same] at own
  exact foreign e inside own

theorem own_temporary (stem : String) (serial : Nat) :
    Text.lowerString (Path.suffixOf (Name.temporary stem serial).text) ∈ ownSuffixes := by
  have shape : (Name.temporary stem serial).text =
      ("." ++ stem ++ ".TMP") ++ String.ofList ('.' :: ['t', 'm', 'p']) :=
    (String.append_assoc : ("." ++ stem) ++ ".TMP" ++ ".tmp" = _).symm
  rw [shape, Path.suffixOf_append (by simp) (by decide) (by decide)]
  decide +kernel

theorem own_signalsName (m : Moment) (count : Nat) :
    Text.lowerString (Path.suffixOf (signalsName m count)) ∈ ownSuffixes := by
  have shape : signalsName m count =
      (Signal.fileStart ++ m.stamp ++ (if count == 0 then "" else "-" ++ Nat.repr count)) ++
        String.ofList ('.' :: ['j', 's', 'o', 'n']) := rfl
  rw [shape, Path.suffixOf_append (by simp [Signal.fileStart]) (by decide) (by decide)]
  decide +kernel

theorem own_of_mem {m : Moment} {count : Nat} {name : String} (found : name ∈ signalsName m count :: reportFiles) :
    Text.lowerString (Path.suffixOf name) ∈ ownSuffixes ∧ name.toList.getLast? ≠ some 'y' := by
  rcases List.mem_cons.mp found with rfl | report
  · refine ⟨own_signalsName m count, ?_⟩
    rw [signalsName, candidateName, DetectorSet.getLast?_append_of_some (c := 'n') (by decide)]
    decide
  · have all : ∀ name ∈ reportFiles, Text.lowerString (Path.suffixOf name) ∈ ownSuffixes ∧
        name.toList.getLast? ≠ some 'y' := by decide +kernel
    exact all name report

end Names

section Looks

variable {v v' : Volume} {site : String} {paths : List Path} {c : Config} {root : Option Path}

theorem surfaceIn_congr (same : ∀ p ∈ paths, Source.readIn v' p root = Source.readIn v p root) :
    surfaceIn v' site paths c root = surfaceIn v site paths c root := by
  have mapped : paths.mapM (RequestSurface.outcomeIn v' c.senders root) =
      paths.mapM (RequestSurface.outcomeIn v c.senders root) := by
    refine mapM_congr fun p found => ?_
    rw [RequestSurface.outcomeIn, RequestSurface.outcomeIn, RequestSurface.readable, RequestSurface.readable,
      same p found]
  rw [surfaceIn, surfaceIn, mapped]

theorem scanIn_congr {scan : PatternScan} (same : ∀ p ∈ paths, Source.readIn v' p root = Source.readIn v p root)
    (loads : ∀ set, DetectorSet.loadIn v c.detectorFolders = .ok set →
      ∃ set', DetectorSet.loadIn v' c.detectorFolders = .ok set' ∧ set'.detectors = set.detectors)
    (seen : scanIn v site paths c root = .ok scan) :
    ∃ scan', scanIn v' site paths c root = .ok scan' ∧ scan'.records = scan.records := by
  obtain ⟨set, outcomes, loaded, mapped, rfl⟩ := scanIn_eq_ok seen
  obtain ⟨set', loaded', detectors⟩ := loads set loaded
  have mapped' : paths.mapM (PatternScan.outcomeIn v' c.radius set.detectors root) = .ok outcomes := by
    rw [← mapped]
    refine mapM_congr fun p found => ?_
    rw [PatternScan.outcomeIn, PatternScan.outcomeIn, RequestSurface.readable, RequestSurface.readable,
      same p found]
  rw [scanIn, loaded']
  simp only [bind, Except.bind, detectors, mapped']
  exact ⟨_, rfl, rfl⟩

end Looks

section Corpus

variable {site : String} {folder : Path} {c : Config} {v ready : Volume} {base scratch place : Location}
  {files : List (String × ByteArray)} {paths : List Path}

/-- Files that the run has landed, on a volume that has folders more than the one it was started on. -/
structure Aside (v ready : Volume) (c : Config) (place : Location) (files : List (String × ByteArray)) : Prop where
  sound : Sound v
  grown : Grown v ready
  plain : place.IsPlain
  solid : ∀ f ∈ files, Solid ready (place.child (.plain f.1))
  skips : ∀ f ∈ files, Source.Skips (c.extensions.map Text.lowerString) f.1
  drafts : ∀ stem serial, Source.Skips (c.extensions.map Text.lowerString) (Name.temporary stem serial).text

theorem collectIn_aside (aside : Aside v ready c place files) (there : Folder v folder base) :
    Source.collectIn (landedAll ready scratch place files) folder c.extensions =
      Source.collectIn v folder c.extensions := by
  have there' := there.within aside.grown.within
  rw [Source.collectIn_of_folder _ (there'.within (within_landedAll aside.solid)), Source.collectIn_of_folder _ there,
    Source.search_landedAll there' aside.plain aside.solid aside.skips aside.drafts, Source.search_grown aside.grown]

theorem readIn_aside (aside : Aside v ready c place files) (there : Folder v folder base)
    (collected : Source.collectIn v folder c.extensions = .ok paths) {p : Path} (found : p ∈ paths) :
    Source.readIn (landedAll ready scratch place files) p (some folder) = Source.readIn v p (some folder) := by
  exact Source.readIn_landedAll aside.sound there aside.grown aside.solid aside.skips aside.drafts
    (Source.mem_below_of_collectIn there collected found)

end Corpus

/-- No file that may hold a detector leads to one of the artifacts. -/
def Spared (v : Volume) (c : Config) (artifacts : Artifacts) : Prop :=
  ∀ d, DetectorFolder.folder d ∈ c.detectorFolders → ∀ name, DetectorSet.isOffered name = true →
    ∀ s, v.lookup true (d / name) = .ok s → ∀ p ∈ artifacts.paths, ∀ t, v.lookup true p = .ok t → s.place ≠ t.place

theorem mem_filesOf {name : String} {surface : RequestSurface} {scan : PatternScan} {f : String × ByteArray}
    (found : f ∈ filesOf name surface scan) : f.1 ∈ name :: reportFiles := by
  rcases List.mem_append.mp found with report | signals
  · exact List.mem_cons_of_mem _ (mem_reportsOf report)
  · rw [List.mem_singleton.mp signals]
    exact List.mem_cons_self

theorem nodup_filesOf (m : Moment) (count : Nat) (surface : RequestSurface) (scan : PatternScan) :
    ((filesOf (signalsName m count) surface scan).map (·.1)).Nodup := by
  have names : (filesOf (signalsName m count) surface scan).map (·.1) = reportFiles ++ [signalsName m count] := rfl
  have new : signalsName m count ∉ reportFiles := fun found => signalsName_ne m found count rfl
  rw [names, List.nodup_append]
  refine ⟨by decide, by simp, ?_⟩
  intro name report other same
  rw [List.mem_singleton.mp same]
  rintro rfl
  exact new report

namespace Ran

variable {site : String} {folder out : Path} {c : Config} {w w₁ : World} {a : Analysis} {paths : List Path}
  {ready : Volume} {scratch place : Location} {count : Nat}
  (ran : Ran site folder c w a w₁ out paths ready scratch place count)

include ran

theorem slots : ∀ name ∈ signalsName w.clock count :: reportFiles, Slot ready out place name :=
  List.forall_mem_cons.mpr ⟨ran.slot, ran.prepared.slots⟩

theorem grown : Grown w.volume ready := by
  have grown := grown_ensureFolders w.volume out
  rw [ran.prepared.made] at grown
  exact grown

theorem plain : place.IsPlain :=
  ran.prepared.room.there.isPlain

theorem fresh (sound : Sound w.volume) : Fresh w₁.volume := by
  rw [ran.volume, reported_eq]
  exact Fresh.landedAll (sound.fresh.grown ran.grown)

theorem stands : ∀ f ∈ filesOf (signalsName w.clock count) a.requestSurface a.patternScan,
    w₁.volume.get? (place.child (.plain f.1)) = some (.file f.2) := by
  intro f found
  rw [ran.volume, reported_eq]
  exact get?_landedAll_of_mem ran.plain (nodup_filesOf _ _ _ _) found

theorem room : Room w₁.volume out scratch place := by
  rw [ran.volume, reported_eq]
  exact ran.prepared.room.landedAll fun f found => ran.slots f.1 (mem_filesOf found)

theorem slots_after : ∀ name ∈ signalsName w.clock count :: reportFiles, Slot w₁.volume out place name := by
  intro name found
  rw [ran.volume, reported_eq]
  exact (ran.slots name found).landedAll ran.prepared.room

theorem aside (sound : Sound w.volume) (foreign : ∀ e ∈ c.extensions, Text.lowerString e ∉ ownSuffixes)
    {files : List (String × ByteArray)} (inside : ∀ f ∈ files, f.1 ∈ signalsName w.clock count :: reportFiles) :
    Aside w.volume ready c place files where
  sound := sound
  grown := ran.grown
  plain := ran.plain
  solid := fun f found => (ran.slots f.1 (inside f found)).solid
  skips := fun f found => skips_of_own foreign (own_of_mem (inside f found)).1
  drafts := fun stem serial => skips_of_own foreign (own_temporary stem serial)

theorem collected_again (sound : Sound w.volume)
    (foreign : ∀ e ∈ c.extensions, Text.lowerString e ∉ ownSuffixes) :
    Source.collectIn w₁.volume folder c.extensions = .ok paths := by
  obtain ⟨base, there⟩ := Source.folder_of_collectIn ran.collected
  rw [ran.volume, reported_eq, collectIn_aside (ran.aside sound foreign fun _ => mem_filesOf) there, ran.collected]

theorem readIn_again (sound : Sound w.volume) (foreign : ∀ e ∈ c.extensions, Text.lowerString e ∉ ownSuffixes)
    {files : List (String × ByteArray)} (inside : ∀ f ∈ files, f.1 ∈ signalsName w.clock count :: reportFiles) :
    ∀ p ∈ paths, Source.readIn (landedAll ready scratch place files) p (some folder) =
      Source.readIn w.volume p (some folder) := by
  obtain ⟨base, there⟩ := Source.folder_of_collectIn ran.collected
  exact fun p found => readIn_aside (ran.aside sound foreign inside) there ran.collected found

theorem seen_again (sound : Sound w.volume) (foreign : ∀ e ∈ c.extensions, Text.lowerString e ∉ ownSuffixes) :
    surfaceIn w₁.volume site paths c (some folder) = .ok a.requestSurface := by
  rw [ran.volume, reported_eq, surfaceIn_congr (ran.readIn_again sound foreign fun _ => mem_filesOf), ran.seen]

theorem spared_again (sound : Sound w.volume) (spared : Spared w₁.volume c a.artifacts) {d p : Path}
    {base : Location} (folder : DetectorFolder.folder d ∈ c.detectorFolders)
    (listed : p ∈ DetectorSet.candidates (withSurface ready scratch place a.requestSurface) d base) {s : Spot}
    (found : (withSurface w₁.volume scratch place a.requestSurface).lookup true p = .ok s) :
    ¬∃ name ∈ signalsName w.clock count :: reportFiles, s.place = place.child (.plain name) := by
  rintro ⟨name, inside, same⟩
  obtain ⟨file, offered, rfl⟩ := DetectorSet.mem_candidates listed
  -- The report that is written again is the same, so a path leads where it led after the first run.
  have here := lookup_of_same
    (fun l _ => get?_landed_again (ran.fresh sound) (ran.stands _ List.mem_cons_self) l) found
  have artifact := (ran.slots_after name inside).lookup ran.room
  have path : out.child name ∈ a.artifacts.paths := by
    rw [ran.artifacts, paths_artifactsIn]
    exact List.mem_map_of_mem (by simpa [or_comm] using inside)
  exact spared d folder file offered s here _ path _ artifact same

theorem scanned_again (sound : Sound w.volume) (foreign : ∀ e ∈ c.extensions, Text.lowerString e ∉ ownSuffixes)
    (spared : Spared w₁.volume c a.artifacts) :
    ∃ scan, scanIn (withSurface w₁.volume scratch place a.requestSurface) site paths c (some folder) = .ok scan ∧
      scan.records = a.patternScan.records := by
  -- Both volumes come from the same one by files under the names of the artifacts.
  have before : withSurface ready scratch place a.requestSurface =
      landedAll ready scratch place [(requestSurfaceFile, surfaceBytes a.requestSurface)] := rfl
  have after : withSurface w₁.volume scratch place a.requestSurface =
      landedAll ready scratch place (filesOf (signalsName w.clock count) a.requestSurface a.patternScan ++
        [(requestSurfaceFile, surfaceBytes a.requestSurface)]) := by
    rw [landedAll_append, ← reported_eq, ← ran.volume]
    rfl
  have inside : ∀ f ∈ [(requestSurfaceFile, surfaceBytes a.requestSurface)],
      f.1 ∈ signalsName w.clock count :: reportFiles :=
    List.forall_mem_singleton.mpr (List.mem_cons_of_mem _ List.mem_cons_self)
  have inside' : ∀ f ∈ filesOf (signalsName w.clock count) a.requestSurface a.patternScan ++
      [(requestSurfaceFile, surfaceBytes a.requestSurface)], f.1 ∈ signalsName w.clock count :: reportFiles :=
    List.forall_mem_append.mpr ⟨fun _ => mem_filesOf, inside⟩
  have alike : Alike (fun l => ∃ name ∈ signalsName w.clock count :: reportFiles, l = place.child (.plain name))
      (withSurface ready scratch place a.requestSurface) (withSurface w₁.volume scratch place a.requestSurface) := by
    rw [before, after]
    exact alike_landedAll ran.plain (fun name found => (ran.slots name found).solid) inside inside'
  have others : ∀ f : String × ByteArray, f.1 ∈ signalsName w.clock count :: reportFiles →
      f.1.toList.getLast? ≠ some 'y' := fun f found => (own_of_mem found).2
  refine scanIn_congr ?_ ?_ ran.scanned
  · intro p found
    rw [before, after, ran.readIn_again sound foreign inside p found, ran.readIn_again sound foreign inside' p found]
  · intro set loaded
    refine DetectorSet.loadIn_alike alike ?_ ?_ loaded
    · intro d base
      rw [before, after, DetectorSet.candidates_landedAll fun f found => others f (inside f found),
        DetectorSet.candidates_landedAll fun f found => others f (inside' f found)]
    · intro d base folder p listed s found
      exact ran.spared_again sound spared folder listed found

theorem writable_again {m : Moment} (vacant : Vacant w₁.volume out place Signal.fileStart ".json" m) :
    Writable w₁.volume out m w₁.volume scratch place where
  made := ran.room.made
  room := ran.room
  slots := fun name found => ran.slots_after name (List.mem_cons_of_mem _ found)
  vacant := vacant

/-- With the same records, a second run adds its signals and changes nothing else. -/
theorem get?_again (sound : Sound w.volume) (name : String) (l : Location) :
    (reported w₁.volume scratch place name a.requestSurface a.patternScan).get? l =
      if l = place.child (.plain name) then some (.file (Utf8.encode (signalsText a.patternScan)))
      else w₁.volume.get? l := by
  have fresh := ran.fresh sound
  have reports : ∀ l, (landedAll w₁.volume scratch place (reportsOf a.requestSurface a.patternScan)).get? l =
      w₁.volume.get? l :=
    get?_landedAll_again fresh fun f found => ran.stands f (List.mem_append_left _ found)
  rw [reported_eq, filesOf, landedAll_append, landedAll, landedAll, get?_landed_of_fresh (Fresh.landedAll fresh),
    reports]

end Ran

theorem reported_congr (v : Volume) (scratch place : Location) (name : String) (surface : RequestSurface)
    {scan scan' : PatternScan} (same : scan'.records = scan.records) :
    reported v scratch place name surface scan' = reported v scratch place name surface scan := by
  simp only [reported, withSignals, withScan, signalsText, PatternScan.toJson, same]

theorem read_of_lookup {v : Volume} {p : Path} {l : Location} {bytes : ByteArray}
    (found : v.lookup true p = .ok ⟨l, v.get? l⟩) (file : v.get? l = some (.file bytes)) : v.read p = .ok bytes := by
  rw [Volume.read, found, file]

section Again

variable {site : String} {folder out : Path} {c : Config} {w w₁ : World} {a : Analysis} {clock : Moment}

end Again

section Sample

variable {script : String}

theorem run_sample (small : (Utf8.encode (Text.ofString script)).size ≤ Source.maxSize)
    (whole : (((RequestSurface.findingsOf sampleConfig.senders (sampleRead script)).getD []).any
      fun f => f.words.hasSurrogate) = false) :
    ∃ surface scan count notices, Slot (sampleVolume script) sampleOut samplePlace
        (signalsName (Moment.ofSeconds 0) count) ∧
      outcome (run "x" sampleSource sampleConfig) (sampleWorld script) =
        (.ok { site := "x", sources := 1, requestSurface := surface, patternScan := scan,
               artifacts := artifactsIn sampleOut (signalsName (Moment.ofSeconds 0) count) },
          { volume := reported (sampleVolume script) samplePlace samplePlace
              (signalsName (Moment.ofSeconds 0) count) surface scan
            clock := Moment.ofSeconds 0
            notices }) := by
  have regular : ∀ v : Volume, ∀ p ∈ [sampleScript], Source.Regular v (some sampleSource) p := by
    intro v p found
    obtain rfl := List.mem_singleton.mp found
    have clean : sampleScript.names.all isNullFree = true := by decide
    exact Source.regular_below clean
  have seen := surfaceIn_eq (v := sampleVolume script) "x" sampleConfig (some sampleSource) (regular _)
  obtain ⟨_, findings⟩ := RequestSurface.surface_eq "x" (sampleVolume script) sampleConfig.senders
    (some sampleSource) [sampleScript]
  generalize RequestSurface.ofOutcomes "x" ([sampleScript].map
    (RequestSurface.outcomeOf (sampleVolume script) sampleConfig.senders (some sampleSource))) = surface
    at seen findings
  have whole' : (Json.print .report surface.toJson).hasSurrogate = false := by
    rw [RequestSurface.hasSurrogate_toJson, findings, List.flatMap_singleton, findingsIn_sample _ _ small, whole]
  obtain ⟨scan, seen', _⟩ := scanIn_builtin (v := withSurface (sampleVolume script) samplePlace samplePlace surface)
    (c := sampleConfig) "x" (some sampleSource) (by decide) (regular _)
  obtain ⟨count, free, short, notices, first⟩ := yields_run (w := sampleWorld script) located_sample
    (collectIn_sample script) seen seen' (writable_sample script) whole'
  exact ⟨surface, scan, count, notices, slot_of_short short free, first⟩

theorem vacant_sample (name : String) (surface : RequestSurface) (scan : PatternScan) :
    Vacant (reported (sampleVolume script) samplePlace samplePlace name surface scan) sampleOut samplePlace
      Signal.fileStart ".json" (Moment.ofSeconds 0) := by
  intro j taken
  rw [reported_eq] at taken ⊢
  refine ⟨short_sample j (Nat.le_trans (le_length_of_taken taken) ?_), ?_⟩
  · have grown := length_landedAll_le (sampleVolume script) samplePlace samplePlace (filesOf name surface scan)
    exact Nat.le_trans grown (by decide : 17 ≤ 20)
  · exact (solid_landedAll ((room_sample script).there.isPlain.child _) (solid_sample script _)).not_link

end Sample

section Linked

theorem run_of_not_folder {site host : String} {folder : Path} {c : Config} {w : World}
    (named : Site.hostname site = .ok host) (other : w.volume.isFolder folder = .ok false) :
    ∃ message w', outcome (run site folder c) w = (.error (.invalidInput message), w') := by
  have failed : Source.collectIn w.volume folder c.extensions =
      .error (.invalidInput ("Source directory not found: " ++ folder.toString)) := by
    rw [Source.collectIn, other]
    rfl
  exact ⟨_, run_of_collect_error named failed⟩

-- In place of the report on requests stands a link to the folder of scripts.
def linkedVolume : Volume where
  entries :=
    [(⟨0, [.plain "src"]⟩, .folder),
     (⟨0, [.plain "out"]⟩, .folder),
     (⟨0, [.plain "out", .plain "x"]⟩, .folder),
     (samplePlace, .folder),
     (samplePlace.child (.plain requestSurfaceFile), .link ⟨.relative, ["..", "..", "..", "src"]⟩)]
  serial := 0

def linkedSource : Path :=
  sampleOut.child requestSurfaceFile

theorem sound_linked : Sound linkedVolume where
  distinct := by decide
  named := by decide
  rooted := List.forall_mem_cons.mpr ⟨rfl, List.forall_mem_cons.mpr ⟨rfl, List.forall_mem_cons.mpr ⟨rfl,
    List.forall_mem_cons.mpr ⟨rfl, List.forall_mem_singleton.mpr rfl⟩⟩⟩⟩
  proper := by decide
  temporary := by simp [linkedVolume, samplePlace, Location.child]

theorem folder_linkedSource : Folder linkedVolume linkedSource ⟨0, [.plain "src"]⟩ :=
  lookup_eq_ok_iff.mpr ⟨by unfold Askable; decide, rfl, _,
    .down rfl (by decide) (by decide) rfl rfl (.down rfl (by decide) (by decide) rfl rfl
      (.down rfl (by decide) (by decide) rfl rfl (.follow rfl (by decide) (by decide) rfl (.inr rfl)
        (.up rfl (.up rfl (.up rfl (.down rfl (by decide) (by decide) rfl rfl .here)))))))⟩

theorem folder_linkedOut : Folder linkedVolume sampleOut samplePlace :=
  lookup_eq_ok_iff.mpr ⟨by unfold Askable; decide, rfl, _,
    .down rfl (by decide) (by decide) rfl rfl (.down rfl (by decide) (by decide) rfl rfl
      (.down rfl (by decide) (by decide) rfl rfl .here))⟩

theorem landing_linked : Landing linkedVolume sampleOut requestSurfaceFile linkedVolume samplePlace samplePlace where
  made := ensureFolders_of_folder folder_linkedOut
  room := folder_linkedOut
  fits := by decide
  askable := by unfold Askable; decide
  there := folder_linkedOut
  free := fun same => by cases same

variable (surface : RequestSurface)

theorem solid_linked (name : String) :
    Solid (withSurface linkedVolume samplePlace samplePlace surface) (samplePlace.child (.plain name)) := by
  intro e found
  rw [withSurface, get?_landed (folder_linkedOut.isPlain.child name)] at found
  split at found
  · cases found
    rfl
  · rename_i other
    have differ : requestSurfaceFile ≠ name := fun same => other (by rw [same])
    have absent : linkedVolume.get? (samplePlace.child (.plain name)) = none := by
      simp [get?, linkedVolume, samplePlace, Location.child, differ]
    cases absent.symm.trans found

theorem writable_linked : Writable (withSurface linkedVolume samplePlace samplePlace surface) sampleOut
    (Moment.ofSeconds 0) (withSurface linkedVolume samplePlace samplePlace surface) samplePlace samplePlace := by
  have there : Folder (withSurface linkedVolume samplePlace samplePlace surface) sampleOut samplePlace :=
    lookup_eq_ok_iff.mpr ⟨by unfold Askable; decide, rfl, _,
      .down rfl (by decide) (by decide) rfl rfl (.down rfl (by decide) (by decide) rfl rfl
        (.down rfl (by decide) (by decide) rfl rfl .here))⟩
  refine writable_of_solid there (solid_linked surface) ?_
  exact Nat.le_trans (length_landed_le linkedVolume _ _ _ _) (by decide)

end Linked

end SiteSurvey.Analysis
