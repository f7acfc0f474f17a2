import Mathlib.Data.List.Induction
import SiteSurvey.Proofs.Detector.Accepted
import SiteSurvey.Proofs.Survey.Notices

set_option autoImplicit false

namespace SiteSurvey

namespace Json

variable {α : Type}

def putAll (members : List (Text × α)) (added : List (Text × α)) : List (Text × α) :=
  added.foldl (fun members m => put members m.1 m.2) members

theorem putAll_append (members added more : List (Text × α)) :
    putAll members (added ++ more) = putAll (putAll members added) more :=
  List.foldl_append

theorem map_fst_putAll (added : List (Text × α)) : (putAll [] added).map (·.1) = firsts id (added.map (·.1)) := by
  have steps : ∀ members : List (Text × α), (putAll members added).map (·.1) =
      (added.map (·.1)).foldl (fun taken key => if key ∈ taken then taken else taken ++ [key]) (members.map (·.1)) := by
    intro members
    induction added generalizing members with
    | nil => rfl
    | cons m added ih =>
      rw [List.map_cons, List.foldl_cons, ← map_fst_put members m.1 m.2, ← ih]
      rfl
  rw [steps, List.map_nil, foldl_firsts id (fun taken key => by simp)]
  simp

theorem lookup_putAll (added : List (Text × α)) (key : Text) :
    lookup (putAll [] added) key = (added.reverse.find? fun m => m.1 = key).map (·.2) := by
  induction added using List.reverseRecOn with
  | nil => rfl
  | append_singleton added m ih =>
    have last : putAll [] (added ++ [m]) = put (putAll [] added) m.1 m.2 := putAll_append [] added [m]
    rw [last, List.reverse_append, List.reverse_singleton, List.singleton_append, List.find?_cons]
    by_cases same : m.1 = key
    · subst same
      rw [lookup_put_self]
      simp
    · rw [lookup_put_other _ _ _ _ (Ne.symm same), ih]
      simp [same]

end Json

namespace DetectorSet

open Volume

variable {v : Volume} {folders : List DetectorFolder} {set : DetectorSet}

def Trial.name? (t : Trial) : Option String :=
  t.result.toOption.map (·.name)

/-- The key and the reason for which a trial is turned down after trials that have taken some names. -/
def Trial.dismissal? (taken : List String) (t : Trial) : Option (Text × Text) :=
  match t.result with
  | .ok d =>
      if d.name ∈ taken then
        some ((d.name ++ " (" ++ t.path ++ ")" : Text), Text.ofString "Duplicate detector name")
      else none
  | .error (.detector name message) => some (name, message)
  | .error _ => none

/-- The trials of a list that do not make it into the set, with the key and the reason for each. -/
def dismissals (taken : List String) : List Trial → List (Text × Text)
  | [] => []
  | t :: ts => (t.dismissal? taken).toList ++ dismissals (taken ++ t.name?.toList) ts

def Tracks (taken : List String) (s : DetectorSet) : Prop :=
  ∀ name, name ∈ taken ↔ name ∈ s.detectors.map (·.name)

section Step

variable {taken : List String} {s : DetectorSet} {t : Trial}

theorem Tracks.keep (tracks : Tracks taken s) : Tracks (taken ++ t.name?.toList) (s.keep t) := by
  intro name
  rw [List.mem_append, tracks name]
  cases result : t.result with
  | ok d =>
    rw [keep_of_ok result, detectors_insert, Trial.name?, result]
    split
    next there =>
      constructor
      · rintro (old | new)
        · exact old
        · obtain rfl : name = d.name := by simpa [Except.toOption] using new
          exact there
      · exact .inl
    next =>
      rw [List.map_append, List.mem_append]
      simp [Except.toOption]
  | error f => simp [detectors_keep_error result, Trial.name?, result, Except.toOption]

theorem rejected_keep (tracks : Tracks taken s) :
    (s.keep t).rejected = Json.putAll s.rejected (t.dismissal? taken).toList := by
  cases result : t.result with
  | ok d =>
    rw [keep_of_ok result, insert, Trial.dismissal?, result]
    have any : s.detectors.any (·.name == d.name) = true ↔ d.name ∈ taken := by
      rw [tracks]
      simp
    by_cases there : d.name ∈ taken
    · simp only [if_pos (any.mpr there), if_pos there]
      rfl
    · simp only [if_neg (mt any.mp there), if_neg there]
      rfl
  | error f =>
    rw [DetectorSet.keep, Trial.dismissal?, result]
    cases f <;> rfl

theorem length_keep (tracks : Tracks taken s) (steady : ¬t.Breaks) :
    (s.keep t).detectors.length + (t.dismissal? taken).toList.length = s.detectors.length + 1 := by
  cases result : t.result with
  | ok d =>
    rw [keep_of_ok result, detectors_insert, Trial.dismissal?, result]
    by_cases there : d.name ∈ taken
    · rw [if_pos ((tracks d.name).mp there)]
      simp [there]
    · rw [if_neg (mt (tracks d.name).mpr there)]
      simp [there]
  | error f =>
    cases f with
    | detector name message =>
      rw [keep_of_rejection result, Trial.dismissal?, result]
      rfl
    | _ => exact absurd ⟨_, result, rfl⟩ steady

end Step

section Run

variable {ts : List Trial} {taken : List String} {s : DetectorSet}

theorem rejected_foldl_keep (tracks : Tracks taken s) :
    (ts.foldl keep s).rejected = Json.putAll s.rejected (dismissals taken ts) := by
  induction ts generalizing taken s with
  | nil => rfl
  | cons t ts ih =>
    rw [List.foldl_cons, ih tracks.keep, rejected_keep tracks, dismissals, Json.putAll_append]

-- Every trial adds one to the detectors or one to what is turned down.
theorem length_foldl_keep (tracks : Tracks taken s) (steady : ∀ t ∈ ts, ¬t.Breaks) :
    (ts.foldl keep s).detectors.length + (dismissals taken ts).length = s.detectors.length + ts.length := by
  induction ts generalizing taken s with
  | nil => rfl
  | cons t ts ih =>
    rw [List.forall_mem_cons] at steady
    have later := ih (tracks.keep (t := t)) steady.2
    have here := length_keep tracks steady.1
    rw [List.foldl_cons, dismissals, List.length_append, List.length_cons]
    omega

end Run

theorem tracks_empty : Tracks [] empty := by
  intro name
  simp [empty]

theorem rejected_loadIn (loaded : loadIn v folders = .ok set) :
    set.rejected = Json.putAll [] (dismissals [] (trials v folders)) := by
  obtain ⟨_, _, rfl⟩ := loadIn_eq_ok_iff.mp loaded
  exact rejected_foldl_keep tracks_empty

theorem length_loadIn (loaded : loadIn v folders = .ok set) :
    set.detectors.length + (dismissals [] (trials v folders)).length = (trials v folders).length := by
  obtain ⟨_, steady, rfl⟩ := loadIn_eq_ok_iff.mp loaded
  simpa [empty] using length_foldl_keep tracks_empty steady

end DetectorSet

end SiteSurvey
