import SiteSurvey.Proofs.Artifact.Document
import SiteSurvey.Proofs.Artifact.Landing
import SiteSurvey.Proofs.Artifact.Unique
import SiteSurvey.Proofs.Json.Letters
import SiteSurvey.Survey.Analysis

set_option autoImplicit false

namespace SiteSurvey

namespace Source

theorem unifyLines_eq {cs : List Char} (noCarriage : '\r' ∉ cs) : unifyLines cs.toArray = cs.toArray := by
  have from_ : ∀ start : Array Char,
      cs.foldl (fun (acc : Array Char × Bool) c =>
        if c == '\r' then (acc.1.push '\n', true)
        else if c == '\n' && acc.2 then (acc.1, false)
        else (acc.1.push c, false)) (start, false) = (start ++ cs.toArray, false) := by
    induction cs with
    | nil => simp
    | cons c cs ih =>
      intro start
      rw [List.mem_cons, not_or] at noCarriage
      have other : (c == '\r') = false := by simpa using Ne.symm noCarriage.1
      rw [List.foldl_cons, other, Bool.and_false, if_neg Bool.false_ne_true, if_neg Bool.false_ne_true,
        ih noCarriage.2]
      simp
  rw [unifyLines, List.foldl_toArray, from_]
  simp

end Source

namespace Json

theorem keeps_report (t : Text) : Keeps Layout.report.ascii t := by
  simp [Keeps, Layout.report]

end Json

namespace Scan

theorem faithful_hit (h : Hit) : Json.Faithful .report h.toJson := by
  have distinct : (["match", "context"].map Text.ofString).Nodup := by decide
  have kept := Json.keeps_report
  exact ⟨distinct, kept _, kept _, kept _, kept _, trivial⟩

theorem faithful_record (r : Record) : Json.Faithful .report r.toJson := by
  have distinct : (["file", "regex", "findings"].map Text.ofString).Nodup := by decide
  have kept := Json.keeps_report
  refine ⟨distinct, kept _, kept _, kept _, kept _, kept _, ?_, trivial⟩
  refine Json.faithfulItems_iff.mpr fun v found => ?_
  obtain ⟨h, _, rfl⟩ := List.mem_map.mp found
  exact faithful_hit h

theorem faithful_records (records : List Record) : Json.Faithful .report (.array (records.map Record.toJson)) := by
  refine Json.faithfulItems_iff.mpr fun v found => ?_
  obtain ⟨record, _, rfl⟩ := List.mem_map.mp found
  exact faithful_record record

end Scan

namespace Signal

theorem faithful_signals (signals : List Signal) : Json.Faithful .report (.array (signals.map toJson)) := by
  have distinct : (["file", "regex", "match", "context"].map Text.ofString).Nodup := by decide
  have kept := Json.keeps_report
  refine Json.faithfulItems_iff.mpr fun v found => ?_
  obtain ⟨s, _, rfl⟩ := List.mem_map.mp found
  exact ⟨distinct, kept _, kept _, kept _, kept _, kept _, kept _, kept _, kept _, trivial⟩

/-- The hits of some records that are worth a look, in order. -/
def ofScan (records : List Scan.Record) : List Signal :=
  records.flatMap fun r =>
    (r.hits.filter fun h => isWorthy h.matched).map fun h =>
      { file := r.file, detector := r.detector, matched := h.matched, context := h.context }

theorem memberText_string {members : List (Text × Json)} {key : String} {t : Text}
    (found : Json.lookup members (Text.ofString key) = some (.string t)) : memberText members key = t := by
  rw [memberText, found]
  cases t <;> rfl

theorem ofFinding_toJson (file detector : Text) (h : Scan.Hit) :
    ofFinding file detector h.toJson =
      if isWorthy h.matched then some { file, detector, matched := h.matched, context := h.context }
      else none := by
  have context : memberText [(Text.ofString "match", .string h.matched),
      (Text.ofString "context", .string h.context)] "context" = h.context := memberText_string rfl
  rw [Scan.Hit.toJson, ofFinding]
  change (if isWorthy h.matched then some _ else none) = _
  rw [context]

theorem ofRecord_toJson (r : Scan.Record) :
    ofRecord [(Text.ofString "file", .string r.file), (Text.ofString "regex", .string r.detector),
        (Text.ofString "findings", .array (r.hits.map Scan.Hit.toJson))] =
      (r.hits.filter fun h => isWorthy h.matched).map fun h =>
        { file := r.file, detector := r.detector, matched := h.matched, context := h.context } := by
  have file : memberText [(Text.ofString "file", .string r.file), (Text.ofString "regex", .string r.detector),
      (Text.ofString "findings", .array (r.hits.map Scan.Hit.toJson))] "file" = r.file := memberText_string rfl
  have detector : memberText [(Text.ofString "file", .string r.file),
      (Text.ofString "regex", .string r.detector),
      (Text.ofString "findings", .array (r.hits.map Scan.Hit.toJson))] "regex" = r.detector :=
    memberText_string rfl
  rw [ofRecord]
  change (r.hits.map Scan.Hit.toJson).filterMap _ = _
  rw [file, detector, List.filterMap_map]
  induction r.hits with
  | nil => rfl
  | cons h hits ih =>
    rw [List.filterMap_cons, Function.comp_apply, ofFinding_toJson, List.filter_cons, ih]
    by_cases worthy : isWorthy h.matched = true
    · simp [worthy]
    · simp [worthy]

theorem ofRecords_toJson (records : List Scan.Record) :
    ofRecords ((records.map Scan.Record.toJson).filter isObject) = .ok (ofScan records) := by
  have objects : (records.map Scan.Record.toJson).filter isObject = records.map Scan.Record.toJson := by
    rw [List.filter_eq_self]
    intro v found
    obtain ⟨r, _, rfl⟩ := List.mem_map.mp found
    rfl
  rw [objects]
  induction records with
  | nil => rfl
  | cons r records ih =>
    have others := ih (by simp_all)
    rw [List.map_cons, Scan.Record.toJson, ofRecords, others, ofRecord_toJson]
    rfl

def unified (t : Text) : Text :=
  Text.ofChars (Source.unifyLines (Text.toChars t).toArray).toList

theorem unified_eq {t : Text} (whole : t.hasSurrogate = false) (noCarriage : ∀ c ∈ t, c.is '\r' = false) :
    unified t = t := by
  have clean : '\r' ∉ Text.toChars t := by
    intro found
    have back : CodePoint.ofChar '\r' ∈ Text.ofChars (Text.toChars t) := List.mem_map_of_mem found
    rw [Text.ofChars_toChars whole] at back
    exact absurd (noCarriage _ back) (by decide)
  rw [unified, Source.unifyLines_eq clean]
  exact Text.ofChars_toChars whole

theorem outcome_readText {w : World} {p : Path} {t : Text} (stands : w.volume.read p = .ok (Utf8.encode t))
    (whole : t.hasSurrogate = false) (noCarriage : ∀ c ∈ t, c.is '\r' = false) :
    outcome (readText p) w = (.ok t, w) := by
  have asked : outcome (Survey.ask p fun v => v.read p) w = (.ok (Utf8.encode t), w) := by
    rw [Survey.outcome_ask, stands]
    rfl
  rw [readText, outcome_bind_ok asked]
  simp only [Utf8.decode_encode whole, outcome_pure]
  rw [← unified, unified_eq whole noCarriage]

def save (report : Path) (signals : List Signal) (total : Nat) : Survey Path := do
  let path ← Artifact.uniquePath report.parent fileStart ".json"
  let written ← Artifact.writeJson path (.array (signals.map toJson))
  Survey.note .info logger
    ("Kept " ++ Nat.repr signals.length ++ " of " ++ Nat.repr total ++ " match(es) as signals: " ++
      path.toString) []
  return written

theorem state_readText (p : Path) (w : World) : (outcome (readText p) w).2 = w := by
  cases read : w.volume.read p with
  | error fault =>
    rw [readText, outcome_bind, Survey.outcome_ask, read]
    rfl
  | ok bytes =>
    have asked : outcome (Survey.ask p fun v => v.read p) w = (.ok bytes, w) := by
      rw [Survey.outcome_ask, read]
      rfl
    rw [readText, outcome_bind_ok asked]
    cases Utf8.decode bytes <;> rfl

/-- A report that gives no signals to save changes nothing. -/
theorem extract_cases (report : Path) (w : World) :
    (∃ f, outcome (extract report) w = (.error f, w)) ∨
      w.volume.isFile report = .ok true ∧
        ∃ signals total, outcome (extract report) w = outcome (save report signals total) w := by
  rw [extract, outcome_bind, Survey.outcome_ask]
  cases w.volume.isFile report with
  | error fault => exact .inl ⟨_, rfl⟩
  | ok isFile =>
    cases isFile with
    | false => exact .inl ⟨_, rfl⟩
    | true =>
      have asked : (Except.ok true : Except VolumeFault Bool).mapError
        (fun fault => Failure.ofTrouble (.at_ fault report.toString)) = .ok true := rfl
      simp only [asked, Bool.not_true, Bool.false_eq_true, if_false]
      rw [outcome_bind]
      have stays := state_readText report w
      cases text : outcome (readText report) w with
      | mk r w₁ =>
        obtain rfl : w₁ = w := by simpa [text] using stays
        cases r with
        | error f => exact .inl ⟨f, rfl⟩
        | ok t =>
          dsimp only
          cases Json.read t with
          | error e => exact .inl ⟨_, rfl⟩
          | ok v =>
            cases v with
            | array records =>
              cases found : ofRecords (records.filter isObject) with
              | error f => exact .inl ⟨f, by simp only [found]; rfl⟩
              | ok signals =>
                refine .inr ⟨trivial, signals, records.foldl (fun count v => count + listed v) 0, ?_⟩
                simp only [found]
                rw [outcome_bind_ok (Survey.outcome_ofExcept _), save]
            | _ => exact .inl ⟨_, rfl⟩

theorem landing_of_save {report path : Path} {signals : List Signal} {total : Nat} {w w' : World}
    (saved : outcome (save report signals total) w = (.ok path, w')) :
    ∃ k ready scratch place notices,
      path = report.parent.child (Artifact.candidateName fileStart ".json" w.clock k) ∧
      (Json.print .report (.array (signals.map toJson))).hasSurrogate = false ∧
      Artifact.Landing w.volume report.parent (Artifact.candidateName fileStart ".json" w.clock k) ready scratch
        place ∧
      w' = { w with
        volume := Artifact.landed ready (Artifact.candidateName fileStart ".json" w.clock k) scratch place
          (Utf8.encode (Json.print .report (.array (signals.map toJson))))
        notices } := by
  rw [save] at saved
  obtain ⟨free, w₁, searched, rest⟩ := outcome_bind_eq_ok saved
  rw [Artifact.outcome_uniquePath] at searched
  obtain ⟨same, k, _, here, _, _⟩ := Artifact.firstFree_eq_ok searched
  rw [Artifact.candidate_eq_child _ _ _ _ _ (by decide) (by decide)] at here
  subst same here
  obtain ⟨answer, w₂, written, noted⟩ := outcome_bind_eq_ok rest
  rw [outcome_bind_ok (Survey.outcome_note _ _ _ _)] at noted
  have proper := Artifact.candidateName_proper fileStart ".json" w₁.clock k
  rw [Artifact.writeJson_signals] at written
  obtain ⟨whole, rfl, ready, scratch, place, landing, rfl⟩ := Artifact.landing_of_writeText proper written
  obtain ⟨done, rfl⟩ := Prod.mk.inj noted
  exact ⟨k, ready, scratch, place, _, (Except.ok.inj done).symm, whole, landing, rfl⟩

/-- The signals of a report that stands where it has been written are those of its records. -/
theorem outcome_extract {w : World} {report : Path} {place : Volume.Location} {records : List Scan.Record}
    (stands : w.volume.lookup true report =
      .ok ⟨place, some (.file (Utf8.encode (Json.print .report (.array (records.map Scan.Record.toJson)))))⟩)
    (whole : (Json.print .report (.array (records.map Scan.Record.toJson))).hasSurrogate = false) :
    ∃ total, outcome (extract report) w = outcome (save report (ofScan records) total) w := by
  have faithful := Scan.faithful_records records
  have isFile : outcome (Survey.ask report fun v => v.isFile report) w = (.ok true, w) := by
    rw [Survey.outcome_ask, Volume.isFile, Volume.holds, stands]
    rfl
  have read : w.volume.read report =
      .ok (Utf8.encode (Json.print .report (.array (records.map Scan.Record.toJson)))) := by
    rw [Volume.read, stands]
  have text := outcome_readText read whole (Json.no_carriage_print faithful)
  refine ⟨(records.map Scan.Record.toJson).foldl (fun count v => count + listed v) 0, ?_⟩
  rw [extract, outcome_bind_ok isFile]
  simp only [Bool.not_true, Bool.false_eq_true, if_false]
  rw [outcome_bind_ok text, Json.read_print faithful]
  simp only [ofRecords_toJson]
  rw [outcome_bind_ok (Survey.outcome_ofExcept _), save]

end Signal

end SiteSurvey
