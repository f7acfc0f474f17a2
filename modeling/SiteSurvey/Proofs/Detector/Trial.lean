import SiteSurvey.Proofs.Detector.Verdict
import SiteSurvey.Proofs.Survey.Stable
import SiteSurvey.Proofs.Volume.Removal

set_option autoImplicit false

namespace SiteSurvey

open Volume

namespace Path

theorem endsWith_py_iff {text : String} : text.endsWith ".py" = true ↔ ∃ start, text = start ++ ".py" := by
  rw [String.endsWith, String.Slice.endsWith_string_iff, String.copy_toSlice]
  constructor
  · rintro ⟨start, whole⟩
    refine ⟨String.ofList start, String.toList_injective ?_⟩
    rw [String.toList_append, String.toList_ofList, whole]
  · rintro ⟨start, rfl⟩
    exact ⟨start.toList, String.toList_append.symm⟩

theorem names_div {name : String} (py : name.endsWith ".py" = true) (folder : Path) :
    ∃ names last, (folder / name).names = names ++ [last ++ ".py"] := by
  obtain ⟨start, rfl⟩ := endsWith_py_iff.mp py
  obtain ⟨parts, last, cut⟩ := splitSlashes_append start.toList
  have split : splitSlashes (start.toList ++ ".py".toList) = parts ++ [last ++ ".py".toList] :=
    cut _ _ _ (splitSlashes_eq (by decide))
  have isName : isName (last ++ ".py".toList) = true := by
    cases last with
    | nil => rfl
    | cons c last => simp [Path.isName]
  have own : (ofString (start ++ ".py")).names =
      (parts.filter Path.isName).map String.ofList ++ [String.ofList last ++ ".py"] := by
    have kept : [last ++ ".py".toList].filter Path.isName = [last ++ ".py".toList] := by
      rw [List.filter_singleton, isName]
      rfl
    simp only [ofString, String.toList_append, split, List.filter_append, kept, List.map_append, List.map_singleton,
      String.ofList_append, String.ofList_toList]
  change ∃ names last, (folder.join (ofString (start ++ ".py"))).names = names ++ [last ++ ".py"]
  rw [join]
  split
  · exact ⟨folder.names ++ (parts.filter Path.isName).map String.ofList, String.ofList last, by
      simp only [own, List.append_assoc]⟩
  · exact ⟨_, _, own⟩

theorem name_div_ne_empty {name : String} (py : name.endsWith ".py" = true) (folder : Path) :
    (folder / name).name ≠ "" := by
  obtain ⟨names, last, shape⟩ := names_div py folder
  rw [Path.name, shape, List.getLast?_append]
  simp

theorem endsWith_div {name : String} (py : name.endsWith ".py" = true) (folder : Path) :
    (folder / name).toString.endsWith ".py" = true := by
  obtain ⟨names, last, shape⟩ := names_div py folder
  have joined : ∃ start, joinNames (folder / name).names = start ++ ".py" := by
    rw [shape]
    cases names with
    | nil => exact ⟨last, rfl⟩
    | cons first names =>
      rw [joinNames_append _ _ (by simp), ← String.append_assoc]
      exact ⟨_, rfl⟩
  obtain ⟨start, joined⟩ := joined
  have some_ : (folder / name).names.isEmpty = false := by simp [shape]
  rw [endsWith_py_iff, toString, some_, Bool.and_false, joined, ← String.append_assoc]
  exact ⟨_, rfl⟩

end Path

namespace Failure

def isRejection : Failure → Bool
  | detector _ _ => true
  | _ => false

end Failure

namespace Detector

variable {v : Volume} {file : Path}

/-- The plugin that a path serves to. -/
def Serves (v : Volume) (file : Path) (plugin : Plugin) : Prop :=
  ∃ place, v.lookup true file = .ok { place, entry := some (.plugin plugin) }

theorem Serves.loadIn {plugin : Plugin} (serves : Serves v file plugin) (py : file.toString.endsWith ".py" = true) :
    loadIn v file = (plugin.load file.name).mapError Refusal.failure := by
  obtain ⟨place, found⟩ := serves
  rw [Detector.loadIn, py, found]
  rfl

theorem loadIn_of_not_serves (other : ∀ plugin, ¬Serves v file plugin) :
    ∃ reason, loadIn v file = .error (.detector file.name reason) := by
  rw [loadIn]
  split
  · exact ⟨_, rfl⟩
  · cases found : v.lookup true file with
    | error fault => exact ⟨_, rfl⟩
    | ok s =>
      obtain ⟨place, entry⟩ := s
      cases entry with
      | none => exact ⟨_, rfl⟩
      | some e =>
        cases e with
        | plugin plugin => exact absurd ⟨place, found⟩ (other plugin)
        | file | folder | link => exact ⟨_, rfl⟩

theorem Serves.unique {plugin plugin' : Plugin} (serves : Serves v file plugin) (serves' : Serves v file plugin') :
    plugin' = plugin := by
  obtain ⟨place, found⟩ := serves
  obtain ⟨place', found'⟩ := serves'
  rw [found] at found'
  cases found'
  rfl

theorem loadIn_eq_ok_iff {d : Detector} (py : file.toString.endsWith ".py" = true) :
    loadIn v file = .ok d ↔ ∃ plugin, Serves v file plugin ∧ plugin.Offers file.name d := by
  constructor
  · intro loaded
    by_contra none
    by_cases serves : ∃ plugin, Serves v file plugin
    · obtain ⟨plugin, serves⟩ := serves
      rw [serves.loadIn py] at loaded
      cases offers : plugin.load file.name with
      | error r =>
        rw [offers] at loaded
        cases loaded
      | ok d' =>
        rw [offers] at loaded
        cases loaded
        exact none ⟨plugin, serves, Plugin.load_eq_ok_iff.mp offers⟩
    · obtain ⟨reason, failed⟩ := loadIn_of_not_serves (not_exists.mp serves)
      rw [failed] at loaded
      cases loaded
  · rintro ⟨plugin, serves, offers⟩
    rw [serves.loadIn py, Plugin.load_eq_ok_iff.mpr offers]
    rfl

theorem loadIn_breaks_iff (py : file.toString.endsWith ".py" = true) :
    (∃ f, loadIn v file = .error f ∧ f.isRejection = false) ↔
      ∃ plugin, Serves v file plugin ∧ plugin.Breaks file.name := by
  have failure : ∀ r : Refusal, r.failure.isRejection = !r.breaks := by
    intro r
    cases r <;> rfl
  by_cases serves : ∃ plugin, Serves v file plugin
  · obtain ⟨plugin, serves⟩ := serves
    have only : (∃ plugin, Serves v file plugin ∧ plugin.Breaks file.name) ↔ plugin.Breaks file.name :=
      ⟨fun ⟨plugin', serves', breaks⟩ => serves.unique serves' ▸ breaks, fun breaks => ⟨plugin, serves, breaks⟩⟩
    rw [only, ← Plugin.load_breaks_iff, serves.loadIn py]
    cases plugin.load file.name with
    | ok d => simp [Except.mapError]
    | error r => simp [Except.mapError, failure]
  · obtain ⟨reason, failed⟩ := loadIn_of_not_serves (not_exists.mp serves)
    rw [failed]
    constructor
    · rintro ⟨f, same, breaks⟩
      cases same
      cases breaks
    · rintro ⟨plugin, here, _⟩
      exact absurd ⟨plugin, here⟩ serves

theorem loadIn_rejected_name {name message : Text} (py : file.toString.endsWith ".py" = true)
    (named : file.name ≠ "") (failed : loadIn v file = .error (.detector name message)) : name.isEmpty = false := by
  have some_ : ∀ text : String, text ≠ "" → (Text.ofString text).isEmpty = false := by
    intro text some_
    simpa [Text.ofString, Text.ofChars] using some_
  by_cases serves : ∃ plugin, Serves v file plugin
  · obtain ⟨plugin, serves⟩ := serves
    rw [serves.loadIn py] at failed
    cases refused : plugin.load file.name with
    | ok d =>
      rw [refused] at failed
      cases failed
    | error r =>
      rw [refused] at failed
      cases r with
      | rejected own reason =>
        cases failed
        rcases Plugin.load_rejected_name refused with rfl | own
        · exact some_ _ named
        · exact some_ _ (Plugin.nameFor_ne_empty named own)
      | beyondBounds | clashingFlags => cases failed
  · obtain ⟨reason, failed'⟩ := loadIn_of_not_serves (not_exists.mp serves)
    rw [failed'] at failed
    cases failed
    exact some_ _ named

end Detector

theorem foldlM_eq_ok_iff {ε σ α : Type} {f : σ → α → Except ε σ} {g : σ → α → σ} {fits : α → Prop} (as : List α)
    (step : ∀ a ∈ as, ∀ s t, f s a = .ok t ↔ fits a ∧ t = g s a) (s t : σ) :
    as.foldlM f s = .ok t ↔ (∀ a ∈ as, fits a) ∧ t = as.foldl g s := by
  induction as generalizing s with
  | nil => simp [pure, Except.pure, eq_comm]
  | cons a as ih =>
    have later := ih fun b found => step b (List.mem_cons_of_mem _ found)
    have here := step a List.mem_cons_self s
    rw [List.foldlM_cons, List.forall_mem_cons, List.foldl_cons, and_assoc, ← later]
    cases first : f s a with
    | error e =>
      have unfit : ¬fits a := fun fit => by
        have made := (here (g s a)).mpr ⟨fit, rfl⟩
        rw [first] at made
        cases made
      simp [bind, Except.bind, unfit]
    | ok u =>
      obtain ⟨fit, rfl⟩ := (here u).mp first
      simp [bind, Except.bind, fit]

namespace DetectorSet

variable {v : Volume}

/-- A file that is tried: its path, and what comes of loading it. -/
structure Trial where
  path : String
  result : Except Failure Detector

/-- A trial that ends the loading of all detectors. -/
def Trial.Breaks (t : Trial) : Prop :=
  ∃ f, t.result = .error f ∧ f.isRejection = false

/-- What a trial adds to a set, if it does not end the loading. -/
def keep (s : DetectorSet) (t : Trial) : DetectorSet :=
  match t.result with
  | .ok d => s.insert d t.path
  | .error (.detector name message) => s.reject name message
  | .error _ => s

def filesIn (v : Volume) (p : Path) : List Path :=
  match v.lookup true p with
  | .ok { place, entry := some .folder } => candidates v p place
  | _ => []

def trialOf (v : Volume) (file : Path) : Trial :=
  { path := file.toString, result := Detector.loadIn v file }

def trialsIn (v : Volume) : DetectorFolder → List Trial
  | .builtin =>
      Detector.builtin.map fun d => { path := DetectorFolder.builtin.text ++ "/" ++ d.name, result := .ok d }
  | .folder p => (filesIn v p).map (trialOf v)

/-- Everything that is tried, in order. A folder that is listed twice is tried twice. -/
def trials (v : Volume) (folders : List DetectorFolder) : List Trial :=
  folders.flatMap (trialsIn v)

theorem filesIn_of_folder {p : Path} {place : Location} (folder : Folder v p place) :
    filesIn v p = candidates v p place := by
  rw [filesIn, folder]

theorem mem_filesIn {p file : Path} (found : file ∈ filesIn v p) :
    ∃ name place, isOffered name = true ∧ Folder v p place ∧ file = p / name := by
  rw [filesIn] at found
  split at found
  · next place folder =>
    obtain ⟨name, offered, rfl⟩ := mem_candidates found
    exact ⟨name, place, offered, folder, rfl⟩
  · cases found

theorem endsWith_of_mem_filesIn {p file : Path} (found : file ∈ filesIn v p) :
    file.toString.endsWith ".py" = true ∧ file.name ≠ "" := by
  obtain ⟨name, _, offered, _, rfl⟩ := mem_filesIn found
  have py := (Bool.and_eq_true_iff.mp offered).1
  exact ⟨Path.endsWith_div py p, Path.name_div_ne_empty py p⟩

theorem Trial.not_breaks_of_ok {t : Trial} {d : Detector} (usable : t.result = .ok d) : ¬t.Breaks := by
  rintro ⟨f, failed, _⟩
  rw [usable] at failed
  cases failed

theorem Trial.not_breaks_of_rejection {t : Trial} {name message : Text}
    (rejected : t.result = .error (.detector name message)) : ¬t.Breaks := by
  rintro ⟨f, failed, breaks⟩
  rw [rejected] at failed
  cases failed
  cases breaks

theorem keep_of_ok {s : DetectorSet} {t : Trial} {d : Detector} (usable : t.result = .ok d) :
    s.keep t = s.insert d t.path := by
  rw [keep, usable]

theorem keep_of_rejection {s : DetectorSet} {t : Trial} {name message : Text}
    (rejected : t.result = .error (.detector name message)) : s.keep t = s.reject name message := by
  rw [keep, rejected]

theorem insertIn_eq_ok_iff {p file : Path} {s t : DetectorSet} (found : file ∈ filesIn v p) :
    insertIn v s file = .ok t ↔ ¬(trialOf v file).Breaks ∧ t = s.keep (trialOf v file) := by
  obtain ⟨py, named⟩ := endsWith_of_mem_filesIn found
  have kept : ∀ u : DetectorSet, Except.ok (ε := Failure) u = .ok t ↔ t = u :=
    fun u => ⟨fun same => (Except.ok.inj same).symm, fun same => congrArg _ same.symm⟩
  rw [insertIn]
  cases loaded : Detector.loadIn v file with
  | ok d =>
    rw [kept, keep_of_ok (t := trialOf v file) loaded]
    exact (and_iff_right (Trial.not_breaks_of_ok loaded)).symm
  | error f =>
    cases f with
    | detector name message =>
      have key := Detector.loadIn_rejected_name py named loaded
      simp only [key, Bool.false_eq_true, if_false]
      rw [kept, keep_of_rejection (t := trialOf v file) loaded]
      exact (and_iff_right (Trial.not_breaks_of_rejection loaded)).symm
    | _ => simp [Trial.Breaks, trialOf, loaded, Failure.isRejection]

/-- A folder that can be asked about: no name on its path is too long. -/
def Answers (v : Volume) : DetectorFolder → Prop
  | .builtin => True
  | .folder p => v.lookup true p ≠ .error .nameTooLong

theorem answers_iff {p : Path} : Answers v (.folder p) ↔ ∃ b, v.isFolder p = .ok b := by
  rw [Answers, isFolder, holds]
  cases found : v.lookup true p with
  | ok s =>
    obtain ⟨place, entry⟩ := s
    cases entry <;> simp
  | error fault =>
    rcases lookup_fault found with absent | rfl
    · have other : fault ≠ .nameTooLong := by
        rintro rfl
        cases absent
      simp [absent, other]
    · simp [VolumeFault.meansAbsent]

theorem filesIn_of_not_folder {p : Path} (none : ∀ place, ¬Folder v p place) : filesIn v p = [] := by
  rw [filesIn]
  split
  · next place folder => exact absurd folder (none place)
  · rfl

theorem foldlM_insertIn_eq_ok_iff {p : Path} {s t : DetectorSet} :
    (filesIn v p).foldlM (insertIn v) s = .ok t ↔
      (∀ r ∈ trialsIn v (.folder p), ¬r.Breaks) ∧ t = (trialsIn v (.folder p)).foldl keep s := by
  have whole := foldlM_eq_ok_iff (f := insertIn v) (g := fun s file => s.keep (trialOf v file)) (filesIn v p)
    (fun file found s t => insertIn_eq_ok_iff found) s t
  rw [whole, trialsIn, List.forall_mem_map, List.foldl_map]

theorem folderIn_eq_ok_iff {folder : DetectorFolder} {s t : DetectorSet} :
    folderIn v s folder = .ok t ↔
      (Answers v folder ∧ ∀ r ∈ trialsIn v folder, ¬r.Breaks) ∧ t = (trialsIn v folder).foldl keep s := by
  cases folder with
  | builtin =>
    have steady : ∀ r ∈ trialsIn v .builtin, ¬r.Breaks := by
      rw [trialsIn, List.forall_mem_map]
      exact fun d _ => Trial.not_breaks_of_ok rfl
    have same : (trialsIn v .builtin).foldl keep s = s.insertBuiltin := List.foldl_map
    rw [folderIn, same]
    exact ⟨fun done => ⟨⟨trivial, steady⟩, (Except.ok.inj done).symm⟩, fun done => congrArg _ done.2.symm⟩
  | folder p =>
    rw [folderIn, answers_iff, and_assoc, ← foldlM_insertIn_eq_ok_iff]
    cases answer : v.isFolder p with
    | error fault => simp [Except.mapError, bind, Except.bind]
    | ok b =>
      cases b with
      | false =>
        have none : ∀ place, ¬Folder v p place := by
          intro place folder
          rw [isFolder_eq_true_iff.mpr ⟨place, folder⟩] at answer
          cases answer
        simp [filesIn_of_not_folder none, Except.mapError, bind, Except.bind]
      | true =>
        obtain ⟨place, folder⟩ := isFolder_eq_true_iff.mp answer
        simp [find_of_folder folder, filesIn_of_folder folder, Except.mapError, bind, Except.bind]

/-- Loading succeeds exactly if every folder can be asked about and no trial breaks it off. It comes to what
the trials add one after the other. -/
theorem loadIn_eq_ok_iff {folders : List DetectorFolder} {set : DetectorSet} :
    loadIn v folders = .ok set ↔
      (∀ folder ∈ folders, Answers v folder) ∧ (∀ r ∈ trials v folders, ¬r.Breaks) ∧
        set = (trials v folders).foldl keep empty := by
  have whole := foldlM_eq_ok_iff (f := folderIn v) (g := fun s folder => (trialsIn v folder).foldl keep s)
    folders (fun folder _ s t => folderIn_eq_ok_iff) empty set
  rw [loadIn, whole, trials, List.forall_mem_flatMap, List.foldl_flatMap, forall₂_and, and_assoc]

section Shelves

open Detector

-- Three folders with one plugin each, all of the same file name.
def shelves (first second third : Plugin) : Volume where
  entries :=
    [(⟨0, [.plain "d"]⟩, .folder), (⟨0, [.plain "d", .plain "p.py"]⟩, .plugin first),
     (⟨0, [.plain "e"]⟩, .folder), (⟨0, [.plain "e", .plain "p.py"]⟩, .plugin second),
     (⟨0, [.plain "f"]⟩, .folder), (⟨0, [.plain "f", .plain "p.py"]⟩, .plugin third)]
  serial := 0

def shelf (name : String) : Path :=
  ⟨.relative, [name]⟩

def allShelves : List DetectorFolder :=
  [.folder (shelf "d"), .folder (shelf "e"), .folder (shelf "f")]

def onShelf (name : String) : Path :=
  ⟨.relative, [name, "p.py"]⟩

theorem filesIn_shelf {name : String} (folder : Folder v (shelf name) ⟨0, [.plain name]⟩)
    (offered : v.entries.filterMap (offered ⟨0, [.plain name]⟩) = ["p.py"]) :
    filesIn v (shelf name) = [onShelf name] := by
  rw [filesIn_of_folder folder, candidates_eq, offered, List.mergeSort_singleton]
  rfl

variable (first second third : Plugin)

theorem folder_shelves : Folder (shelves first second third) (shelf "d") ⟨0, [.plain "d"]⟩ ∧
    Folder (shelves first second third) (shelf "e") ⟨0, [.plain "e"]⟩ ∧
    Folder (shelves first second third) (shelf "f") ⟨0, [.plain "f"]⟩ := by
  refine ⟨?_, ?_, ?_⟩ <;>
    exact lookup_eq_ok_iff.mpr ⟨by unfold Askable; decide, rfl, _, .down rfl (by decide) (by decide) rfl rfl .here⟩

theorem serves_shelves : Serves (shelves first second third) (onShelf "d") first ∧
    Serves (shelves first second third) (onShelf "e") second ∧
    Serves (shelves first second third) (onShelf "f") third := by
  refine ⟨⟨⟨0, [.plain "d", .plain "p.py"]⟩, ?_⟩, ⟨⟨0, [.plain "e", .plain "p.py"]⟩, ?_⟩,
    ⟨⟨0, [.plain "f", .plain "p.py"]⟩, ?_⟩⟩ <;>
    exact lookup_eq_ok_iff.mpr ⟨by unfold Askable; decide, rfl, _,
      .down rfl (by decide) (by decide) rfl rfl (.down rfl (by decide) (by decide) rfl rfl .here)⟩

theorem offered_shelves : ∀ name ∈ ["d", "e", "f"],
    (shelves first second third).entries.filterMap (offered ⟨0, [.plain name]⟩) = ["p.py"] := by
  have ends : "p.py".endsWith ".py" = true := Path.endsWith_py_iff.mpr ⟨"p", rfl⟩
  have starts : "p.py".startsWith "_" = false := by
    rw [← Bool.not_eq_true, String.startsWith, String.Slice.startsWith_string_iff]
    decide
  have py : isOffered "p.py" = true := by rw [isOffered, ends, starts, Bool.not_false, Bool.and_self]
  simp [shelves, offered, Location.below?, Name.text, py]

theorem trials_shelves :
    trials (shelves first second third) allShelves =
      [⟨"d/p.py", (first.load "p.py").mapError Refusal.failure⟩,
       ⟨"e/p.py", (second.load "p.py").mapError Refusal.failure⟩,
       ⟨"f/p.py", (third.load "p.py").mapError Refusal.failure⟩] := by
  obtain ⟨there, there', there''⟩ := folder_shelves first second third
  obtain ⟨serves, serves', serves''⟩ := serves_shelves first second third
  have offered := offered_shelves first second third
  simp only [trials, allShelves, List.flatMap_cons, List.flatMap_nil, trialsIn,
    filesIn_shelf there (offered "d" (by simp)), filesIn_shelf there' (offered "e" (by simp)),
    filesIn_shelf there'' (offered "f" (by simp)), List.map_cons, List.map_nil, List.cons_append, List.nil_append,
    trialOf, serves.loadIn (Path.endsWith_py_iff.mpr ⟨"d/p", rfl⟩),
    serves'.loadIn (Path.endsWith_py_iff.mpr ⟨"e/p", rfl⟩), serves''.loadIn (Path.endsWith_py_iff.mpr ⟨"f/p", rfl⟩)]
  rfl

theorem answers_shelves : ∀ folder ∈ allShelves, Answers (shelves first second third) folder := by
  obtain ⟨there, there', there''⟩ := folder_shelves first second third
  simp only [allShelves, List.forall_mem_cons, answers_iff]
  exact ⟨⟨_, isFolder_eq_true_iff.mpr ⟨_, there⟩⟩, ⟨_, isFolder_eq_true_iff.mpr ⟨_, there'⟩⟩,
    ⟨_, isFolder_eq_true_iff.mpr ⟨_, there''⟩⟩, by simp⟩

end Shelves

end DetectorSet

end SiteSurvey
