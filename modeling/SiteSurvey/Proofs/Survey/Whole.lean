import SiteSurvey.Proofs.Scan.Distinct
import SiteSurvey.Proofs.Signal.Report

set_option autoImplicit false

namespace SiteSurvey

namespace Text

theorem hasSurrogate_eq_false_iff {t : Text} : t.hasSurrogate = false ↔ ∀ c ∈ t, c.isSurrogate = false := by
  simp [hasSurrogate]

theorem hasSurrogate_flatMap {α : Type} (f : α → Text) (as : List α) :
    hasSurrogate (as.flatMap f) = as.any fun a => (f a).hasSurrogate := by
  simp [hasSurrogate, List.any_flatMap]

theorem hasSurrogate_trim {t : Text} (whole : t.hasSurrogate = false) : (trim t).hasSurrogate = false := by
  rw [hasSurrogate_eq_false_iff] at whole ⊢
  intro c found
  rw [trim, List.mem_reverse] at found
  have inner := List.mem_reverse.mp ((List.dropWhile_sublist isBlank).subset found)
  exact whole c ((List.dropWhile_sublist isBlank).subset inner)

theorem hasSurrogate_squeezeFrom {t : Text} (inside : Bool) (whole : t.hasSurrogate = false) :
    (squeezeFrom inside t).hasSurrogate = false := by
  induction t generalizing inside with
  | nil => rfl
  | cons c t ih =>
    rw [hasSurrogate_cons, Bool.or_eq_false_iff] at whole
    obtain ⟨first, others⟩ := whole
    have blank : (CodePoint.ofChar ' ').isSurrogate = false := CodePoint.isSurrogate_ofChar ' '
    rw [squeezeFrom]
    split
    · split
      · exact ih true others
      · rw [hasSurrogate_cons, blank, ih true others]
        rfl
    · rw [hasSurrogate_cons, first, ih false others]
      rfl

theorem hasSurrogate_join {between : Text} {parts : List Text} (whole : between.hasSurrogate = false)
    (wholes : ∀ t ∈ parts, t.hasSurrogate = false) : (join between parts).hasSurrogate = false := by
  fun_induction join between parts with
  | case1 => rfl
  | case2 t => exact wholes t List.mem_cons_self
  | case3 t rest _ ih =>
    have first := wholes t List.mem_cons_self
    have others := ih fun u found => wholes u (List.mem_cons_of_mem _ found)
    simp [first, whole, others]

end Text

namespace Scan

/-- A hit in a text of characters: no half of a character stands on its own. -/
def Hit.IsWhole (h : Hit) : Prop :=
  h.matched.hasSurrogate = false ∧ h.context.hasSurrogate = false

structure Record.IsWhole (r : Record) : Prop where
  file : r.file.hasSurrogate = false
  detector : r.detector.hasSurrogate = false
  hits : ∀ h ∈ r.hits, h.IsWhole

theorem isWhole_hitAt (text : Array Char) (radius : Int) (s : Span) : (hitAt text radius s).IsWhole := by
  constructor
  · exact Text.hasSurrogate_ofChars _
  · exact Text.hasSurrogate_trim (Text.hasSurrogate_squeezeFrom false (Text.hasSurrogate_ofChars _))

theorem isWhole_of_mem_hits {radius : Int} {text : Array Char} {d : Detector} {h : Hit}
    (found : h ∈ hits radius text d) : h.IsWhole := by
  obtain ⟨s, _, rfl⟩ := mem_hits_iff.mp found
  exact isWhole_hitAt text radius s

theorem isWhole_of_mem_records {radius : Int} {file : String} {text : Array Char} {ds : List Detector}
    {r : Record} (found : r ∈ records radius file text ds) : r.IsWhole := by
  obtain ⟨d, _, made⟩ := List.mem_filterMap.mp found
  split at made
  · cases made
  · cases made
    exact { file := Text.hasSurrogate_ofString _, detector := Text.hasSurrogate_ofString _,
            hits := fun h inside => isWhole_of_mem_hits inside }

theorem hasSurrogate_hit {h : Hit} (whole : h.IsWhole) : h.toJson.letters.hasSurrogate = false := by
  simp [Hit.toJson, Json.letters, Json.lettersOfMembers, whole.1, whole.2]

theorem hasSurrogate_record {r : Record} (whole : r.IsWhole) : r.toJson.letters.hasSurrogate = false := by
  have hits : (r.hits.any fun h => h.toJson.letters.hasSurrogate) = false := by
    rw [List.any_eq_false]
    intro h found
    simp [hasSurrogate_hit (whole.hits h found)]
  simp only [Record.toJson, Json.letters, Json.lettersOfMembers, Json.lettersOfItems_eq,
    Text.hasSurrogate_append, Text.hasSurrogate_ofString, Text.hasSurrogate_flatMap, List.any_map, whole.file,
    whole.detector, Bool.false_or]
  rw [Bool.or_eq_false_iff]
  exact ⟨hits, rfl⟩

theorem hasSurrogate_records {records : List Record} (whole : ∀ r ∈ records, r.IsWhole) :
    (Json.print .report (.array (records.map Record.toJson))).hasSurrogate = false := by
  rw [Json.hasSurrogate_print (faithful_records records), Json.letters, Json.lettersOfItems_eq,
    Text.hasSurrogate_flatMap, List.any_map, List.any_eq_false]
  intro r found
  simp [hasSurrogate_record (whole r found)]

theorem hasSurrogate_recordLines {r : Record} (whole : r.IsWhole) :
    ∀ t ∈ recordLines r, t.hasSurrogate = false := by
  intro t found
  simp only [recordLines, List.mem_append, List.mem_cons, List.mem_flatMap, List.not_mem_nil, or_false]
    at found
  rcases found with ((rfl | rfl | rfl) | ⟨h, inside, line⟩) | rfl
  · simp [whole.file]
  · simp [whole.detector]
  · simp
  · have hit := whole.hits h inside
    simp only [hitLines, List.mem_cons, List.not_mem_nil, or_false] at line
    rcases line with rfl | rfl
    · simp [hit.1]
    · simp [hit.2]
  · rfl

theorem hasSurrogate_render {records : List Record} (whole : ∀ r ∈ records, r.IsWhole) :
    (render records).hasSurrogate = false := by
  refine Text.hasSurrogate_join (Text.hasSurrogate_ofString _) ?_
  intro t found
  obtain ⟨r, inside, line⟩ := List.mem_flatMap.mp found
  exact hasSurrogate_recordLines (whole r inside) t line

end Scan

namespace Signal

def words (s : Signal) : Text :=
  s.file ++ s.detector ++ s.matched ++ s.context

theorem hasSurrogate_print (signals : List Signal) :
    (Json.print .report (.array (signals.map toJson))).hasSurrogate = signals.any fun s => s.words.hasSurrogate := by
  rw [Json.hasSurrogate_print (faithful_signals signals), Json.letters, Json.lettersOfItems_eq,
    Text.hasSurrogate_flatMap, List.any_map]
  congr 1
  funext s
  simp [toJson, Json.letters, Json.lettersOfMembers, words]

theorem hasSurrogate_signals {records : List Scan.Record} (whole : ∀ r ∈ records, r.IsWhole) :
    (Json.print .report (.array ((ofScan records).map toJson))).hasSurrogate = false := by
  rw [hasSurrogate_print, List.any_eq_false]
  intro s found
  obtain ⟨r, inside, made⟩ := List.mem_flatMap.mp found
  obtain ⟨h, hit, rfl⟩ := List.mem_map.mp made
  have record := whole r inside
  have ends := record.hits h (List.mem_filter.mp hit).1
  simp [words, record.file, record.detector, ends.1, ends.2]

end Signal

namespace Request.Finding

def words (f : Finding) : Text :=
  f.file ++ f.method ++ f.endpoint.getD [] ++ f.params.flatten

theorem hasSurrogate_toJson (f : Finding) : f.toJson.letters.hasSurrogate = f.words.hasSurrogate := by
  have params : (f.params.map Json.string).flatMap Json.letters = f.params.flatten := by
    induction f.params with
    | nil => rfl
    | cons t rest ih => rw [List.map_cons, List.flatMap_cons, ih, Json.letters, List.flatten_cons]
  have endpoint : (endpointJson f.endpoint).letters = f.endpoint.getD [] := by
    cases f.endpoint <;> rfl
  simp [toJson, toJsonWith, Json.letters, Json.lettersOfMembers, Json.lettersOfItems_eq, params, endpoint, words]

theorem faithful_toJson (f : Finding) : Json.Faithful .report f.toJson := by
  have distinct : (["file", "method", "endpoint", "bodyParams", "bodyType", "confidence"].map
    Text.ofString).Nodup := by decide
  have kept := Json.keeps_report
  have endpoint : Json.Faithful .report (endpointJson f.endpoint) := by
    cases f.endpoint with
    | none => trivial
    | some t => exact kept t
  refine ⟨distinct, kept _, kept _, kept _, kept _, kept _, endpoint, kept _, ?_, kept _, kept _, kept _, kept _,
    trivial⟩
  refine Json.faithfulItems_iff.mpr fun v found => ?_
  obtain ⟨t, _, rfl⟩ := List.mem_map.mp found
  exact kept t

end Request.Finding

namespace RequestSurface

theorem hasSurrogate_toJson (r : RequestSurface) :
    (Json.print .report r.toJson).hasSurrogate = r.findings.any fun f => f.words.hasSurrogate := by
  have faithful : Json.Faithful .report r.toJson := by
    refine Json.faithfulItems_iff.mpr fun v found => ?_
    obtain ⟨f, _, rfl⟩ := List.mem_map.mp found
    exact f.faithful_toJson
  rw [Json.hasSurrogate_print faithful, toJson, Json.letters, Json.lettersOfItems_eq,
    Text.hasSurrogate_flatMap, List.any_map]
  simp only [Function.comp_def, Request.Finding.hasSurrogate_toJson]

end RequestSurface

end SiteSurvey
