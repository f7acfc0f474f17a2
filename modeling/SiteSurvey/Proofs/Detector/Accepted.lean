import SiteSurvey.Proofs.Detector.Trial
import SiteSurvey.Proofs.Listing

set_option autoImplicit false

namespace SiteSurvey

namespace DetectorSet

open Volume

variable {v : Volume} {folders : List DetectorFolder} {set : DetectorSet}

def usable (ts : List Trial) : List Detector :=
  ts.filterMap fun t => t.result.toOption

theorem mem_usable {ts : List Trial} {d : Detector} : d ∈ usable ts ↔ ∃ t ∈ ts, t.result = .ok d := by
  rw [usable, List.mem_filterMap]
  refine exists_congr fun t => and_congr_right fun _ => ?_
  cases t.result with
  | ok e => simp [Except.toOption]
  | error f => simp [Except.toOption]

theorem detectors_insert (s : DetectorSet) (d : Detector) (path : String) :
    (s.insert d path).detectors =
      if d.name ∈ s.detectors.map (·.name) then s.detectors else s.detectors ++ [d] := by
  rw [insert]
  by_cases there : d.name ∈ s.detectors.map (·.name)
  · have any : s.detectors.any (·.name == d.name) = true := by simpa using there
    rw [if_pos any, if_pos there, reject]
  · have any : ¬s.detectors.any (·.name == d.name) = true := by simpa using there
    rw [if_neg any, if_neg there]

theorem usable_cons_ok {t : Trial} {d : Detector} (result : t.result = .ok d) (ts : List Trial) :
    usable (t :: ts) = d :: usable ts :=
  List.filterMap_cons_some (by rw [result]; rfl)

theorem usable_cons_error {t : Trial} {f : Failure} (result : t.result = .error f) (ts : List Trial) :
    usable (t :: ts) = usable ts :=
  List.filterMap_cons_none (by rw [result]; rfl)

theorem detectors_keep_error {s : DetectorSet} {t : Trial} {f : Failure} (result : t.result = .error f) :
    (s.keep t).detectors = s.detectors := by
  rw [keep, result]
  cases f <;> rfl

theorem detectors_foldl_keep (ts : List Trial) (s : DetectorSet) :
    (ts.foldl keep s).detectors = (usable ts).foldl
      (fun taken d => if d.name ∈ taken.map (·.name) then taken else taken ++ [d]) s.detectors := by
  induction ts generalizing s with
  | nil => rfl
  | cons t ts ih =>
    rw [List.foldl_cons, ih]
    cases result : t.result with
    | ok d => rw [usable_cons_ok result, keep_of_ok result, detectors_insert, List.foldl_cons]
    | error f => rw [usable_cons_error result, detectors_keep_error result]

/-- The detectors of a set are those that can be had, the first of each name. -/
theorem detectors_loadIn (loaded : loadIn v folders = .ok set) :
    set.detectors = firsts (·.name) (usable (trials v folders)) := by
  obtain ⟨_, _, rfl⟩ := loadIn_eq_ok_iff.mp loaded
  rw [detectors_foldl_keep, foldl_firsts Detector.name fun _ _ => rfl]
  simp [empty]

theorem loadIn_of_outcome {w w' : World} (loaded : outcome (load folders) w = (.ok set, w')) :
    loadIn w.volume folders = .ok set := by
  obtain ⟨added, ran⟩ := quiet_load folders w
  rw [ran] at loaded
  exact (Prod.mk.inj loaded).1

theorem outcome_of_loadIn {w : World} (loaded : loadIn w.volume folders = .ok set) :
    ∃ w', outcome (load folders) w = (.ok set, w') := by
  obtain ⟨_, ran⟩ := (quiet_load folders).yields w loaded
  exact ⟨_, ran⟩

/-- A plugin that is tried, at a path in one of the folders. -/
def Tried (v : Volume) (folders : List DetectorFolder) (file : Path) (plugin : Detector.Plugin) : Prop :=
  (∃ p, .folder p ∈ folders ∧ file ∈ filesIn v p) ∧ Detector.Serves v file plugin

theorem mem_trials {t : Trial} :
    t ∈ trials v folders ↔
      (.builtin ∈ folders ∧ t ∈ trialsIn v .builtin) ∨
        ∃ p file, .folder p ∈ folders ∧ file ∈ filesIn v p ∧ t = trialOf v file := by
  rw [trials, List.mem_flatMap]
  constructor
  · rintro ⟨folder, listed, found⟩
    cases folder with
    | builtin => exact .inl ⟨listed, found⟩
    | folder p =>
      obtain ⟨file, inside, rfl⟩ := List.mem_map.mp found
      exact .inr ⟨p, file, listed, inside, rfl⟩
  · rintro (⟨listed, found⟩ | ⟨p, file, listed, inside, rfl⟩)
    · exact ⟨.builtin, listed, found⟩
    · exact ⟨.folder p, listed, List.mem_map.mpr ⟨file, inside, rfl⟩⟩

theorem trials_steady_iff :
    (∀ t ∈ trials v folders, ¬t.Breaks) ↔
      ∀ file plugin, Tried v folders file plugin → ¬plugin.Breaks file.name := by
  constructor
  · rintro steady file plugin ⟨⟨p, listed, inside⟩, serves⟩ wild
    obtain ⟨py, _⟩ := endsWith_of_mem_filesIn inside
    have breaks := (Detector.loadIn_breaks_iff py).mpr ⟨plugin, serves, wild⟩
    exact steady (trialOf v file) (mem_trials.mpr (.inr ⟨p, file, listed, inside, rfl⟩)) breaks
  · intro steady t found breaks
    rcases mem_trials.mp found with ⟨_, own⟩ | ⟨p, file, listed, inside, rfl⟩
    · obtain ⟨d, _, rfl⟩ := List.mem_map.mp own
      exact absurd breaks (Trial.not_breaks_of_ok rfl)
    · obtain ⟨py, _⟩ := endsWith_of_mem_filesIn inside
      obtain ⟨plugin, serves, wild⟩ := (Detector.loadIn_breaks_iff py).mp breaks
      exact steady file plugin ⟨⟨p, listed, inside⟩, serves⟩ wild

theorem mem_usable_trials {d : Detector} :
    d ∈ usable (trials v folders) ↔
      (.builtin ∈ folders ∧ d ∈ Detector.builtin) ∨
        ∃ file plugin, Tried v folders file plugin ∧ plugin.Offers file.name d := by
  rw [mem_usable]
  constructor
  · rintro ⟨t, found, made⟩
    rcases mem_trials.mp found with ⟨listed, own⟩ | ⟨p, file, listed, inside, rfl⟩
    · obtain ⟨d', known, rfl⟩ := List.mem_map.mp own
      cases made
      exact .inl ⟨listed, known⟩
    · obtain ⟨py, _⟩ := endsWith_of_mem_filesIn inside
      obtain ⟨plugin, serves, offers⟩ := (Detector.loadIn_eq_ok_iff py).mp made
      exact .inr ⟨file, plugin, ⟨⟨p, listed, inside⟩, serves⟩, offers⟩
  · rintro (⟨listed, known⟩ | ⟨file, plugin, ⟨⟨p, listed, inside⟩, serves⟩, offers⟩)
    · exact ⟨_, mem_trials.mpr (.inl ⟨listed, List.mem_map.mpr ⟨d, known, rfl⟩⟩), rfl⟩
    · obtain ⟨py, _⟩ := endsWith_of_mem_filesIn inside
      have made := (Detector.loadIn_eq_ok_iff py).mpr ⟨plugin, serves, offers⟩
      exact ⟨trialOf v file, mem_trials.mpr (.inr ⟨p, file, listed, inside, rfl⟩), made⟩

def textPlugin (source : String) : Detector.Plugin where
  name := none
  offer := some (.value (.string (Text.ofString source)))
  complaint := none

def brokenPlugin (complaint : String) : Detector.Plugin where
  name := none
  offer := none
  complaint := some complaint

theorem offers_abc : ∃ d, (textPlugin "abc").Offers "p.py" d := by
  have loads : ((textPlugin "abc").load "p.py").isOk = true := rfl
  cases made : (textPlugin "abc").load "p.py" with
  | ok d => exact ⟨d, Detector.Plugin.load_eq_ok_iff.mp made⟩
  | error r =>
    rw [made] at loads
    cases loads

theorem load_unclosed : (textPlugin "(").load "p.py" =
    .error (.rejected "p.py" (.badPattern "missing ), unterminated subpattern at position 0")) :=
  rfl

theorem tried_second (first second third : Detector.Plugin) :
    Tried (shelves first second third) allShelves (onShelf "e") second := by
  refine ⟨⟨shelf "e", by simp [allShelves], ?_⟩, (serves_shelves _ _ _).2.1⟩
  rw [filesIn_shelf (folder_shelves _ _ _).2.1 (offered_shelves _ _ _ "e" (by simp))]
  exact List.mem_singleton_self _

-- What is tried on shelves with a bad pattern and a good one at their beginning.
def mixedTrials (d : Detector) (third : Detector.Plugin) : List Trial :=
  [⟨"d/p.py", .error (.detector (Text.ofString "p.py")
     (Text.ofString "Invalid pattern: missing ), unterminated subpattern at position 0"))⟩,
   ⟨"e/p.py", .ok d⟩, ⟨"f/p.py", (third.load "p.py").mapError Detector.Refusal.failure⟩]

theorem trials_mixed {d : Detector} (offers : (textPlugin "abc").Offers "p.py" d) (third : Detector.Plugin) :
    trials (shelves (textPlugin "(") (textPlugin "abc") third) allShelves = mixedTrials d third := by
  rw [trials_shelves, load_unclosed, Detector.Plugin.load_eq_ok_iff.mpr offers]
  rfl

theorem steady_mixed {d : Detector} (third : Detector.Plugin)
    (steady : ∀ r, third.load "p.py" = .error r → r.breaks = false) : ∀ t ∈ mixedTrials d third, ¬t.Breaks := by
  simp only [mixedTrials, List.forall_mem_cons]
  refine ⟨Trial.not_breaks_of_rejection rfl, Trial.not_breaks_of_ok rfl, ?_, by simp⟩
  rintro ⟨f, failed, breaks⟩
  cases refused : third.load "p.py" with
  | ok d =>
    rw [refused] at failed
    cases failed
  | error r =>
    rw [refused] at failed
    cases failed
    cases r with
    | rejected => cases breaks
    | beyondBounds | clashingFlags => cases steady _ refused

theorem load_mixed {d : Detector} (third : Detector.Plugin) (offers : (textPlugin "abc").Offers "p.py" d)
    (steady : ∀ r, third.load "p.py" = .error r → r.breaks = false) :
    ∃ w', outcome (load allShelves) ⟨shelves (textPlugin "(") (textPlugin "abc") third, .ofSeconds 0, []⟩ =
      (.ok ((mixedTrials d third).foldl keep empty), w') := by
  have unbroken := steady_mixed (d := d) third steady
  rw [← trials_mixed offers] at unbroken
  rw [← trials_mixed offers]
  exact outcome_of_loadIn (loadIn_eq_ok_iff.mpr ⟨answers_shelves _ _ _, unbroken, rfl⟩)

end DetectorSet

end SiteSurvey
