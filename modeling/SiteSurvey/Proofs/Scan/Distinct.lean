import SiteSurvey.Proofs.Listing
import SiteSurvey.Scan.Record

set_option autoImplicit false

namespace SiteSurvey.Scan

variable {radius : Int} {file : String} {text : Array Char} {d : Detector}

def sightings (radius : Int) (text : Array Char) (d : Detector) : List Hit :=
  (occurrences d.pattern text).map (hitAt text radius)

theorem addHit_eq (known : List Hit) (h : Hit) :
    addHit known h = if id h ∈ known.map id then known else known ++ [h] := by
  simp [addHit]

theorem hits_eq_firsts : hits radius text d = firsts id (sightings radius text d) := by
  rw [hits, foldl_firsts id addHit_eq]
  simp [sightings]

theorem mem_hits_iff {h : Hit} : h ∈ hits radius text d ↔ ∃ s ∈ occurrences d.pattern text, hitAt text radius s = h := by
  rw [← List.mem_map, hits_eq_firsts]
  constructor
  · exact fun found => (firsts_sublist id _).subset found
  · intro seen
    obtain ⟨h', kept, rfl⟩ := exists_mem_firsts id seen
    exact kept

theorem hits_eq_nil_iff : hits radius text d = [] ↔ occurrences d.pattern text = [] := by
  rw [hits_eq_firsts, sightings]
  cases occurrences d.pattern text with
  | nil => simp [firsts]
  | cons s spans => simp [firsts]

/-- The record that a detector comes to on its own, if it comes to one. -/
structure RecordOf (radius : Int) (file : String) (text : Array Char) (d : Detector) (r : Record) : Prop where
  matched : occurrences d.pattern text ≠ []
  shape : r = { file, detector := d.name, hits := hits radius text d }

theorem inOrder_records (ds : List Detector) :
    InOrder (· < ·) (fun (i : Nat) r => ∃ d, ds[i]? = some d ∧ RecordOf radius file text d r)
      (records radius file text ds) := by
  refine (inOrder_filterMap _ ds).congr fun i r => exists_congr fun d => and_congr_right fun _ => ?_
  have none : hits radius text d = [] ↔ occurrences d.pattern text = [] := hits_eq_nil_iff
  constructor
  · rintro ⟨matched, rfl⟩
    split
    · next nothing => exact absurd (none.mp nothing) matched
    · rfl
  · intro made
    split at made
    · cases made
    · next some_ =>
      cases made
      exact ⟨fun nothing => some_ (none.mpr nothing), rfl⟩

/-- A detector has as its hits what is seen of its occurrences, each where it is seen first and no more than once.
The records of some detectors are, in their order, those of the detectors that match, and what record a detector
has does not depend on the others. -/
theorem first_hits_of_each_detector (radius : Int) (text : Array Char) :
    (∀ d : Detector,
      InOrder (· < ·) (FirstAt (sightings radius text d)) (hits radius text d) ∧
      (hits radius text d).Nodup ∧
      (∀ h, h ∈ hits radius text d ↔ ∃ s ∈ occurrences d.pattern text, hitAt text radius s = h) ∧
      (hits radius text d = [] ↔ occurrences d.pattern text = [])) ∧
    (∀ (file : String) (ds : List Detector),
      InOrder (· < ·) (fun (i : Nat) r => ∃ d, ds[i]? = some d ∧ RecordOf radius file text d r)
        (records radius file text ds)) ∧
    ∀ (file : String) (before : List Detector) (d : Detector) (after : List Detector),
      records radius file text (before ++ d :: after) =
        records radius file text before ++ records radius file text [d] ++ records radius file text after := by
  refine ⟨fun d => ⟨?_, ?_, fun h => mem_hits_iff, hits_eq_nil_iff⟩, fun file ds => inOrder_records ds, ?_⟩
  · rw [hits_eq_firsts]
    exact inOrder_firsts _
  · have distinct := nodup_firsts id (sightings radius text d)
    rwa [List.map_id, ← hits_eq_firsts] at distinct
  · intro file before d after
    rw [List.append_cons]
    simp only [records, List.filterMap_append]

end SiteSurvey.Scan
