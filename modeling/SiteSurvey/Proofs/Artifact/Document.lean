import SiteSurvey.Survey.PatternScan
import SiteSurvey.Survey.RequestSurface
import SiteSurvey.Survey.Triage

set_option autoImplicit false

namespace SiteSurvey

namespace Json

theorem anyLongInteger_eq_false_iff {items : List Json} :
    anyLongInteger items = false ↔ ∀ v ∈ items, v.hasLongInteger = false := by
  induction items with
  | nil => simp [anyLongInteger]
  | cons v rest ih => simp [anyLongInteger, ih]

theorem anyLongMember_eq_false_iff {members : List (Text × Json)} :
    anyLongMember members = false ↔ ∀ m ∈ members, m.2.hasLongInteger = false := by
  induction members with
  | nil => simp [anyLongMember]
  | cons m rest ih => simp [anyLongMember, ih]

theorem hasLongInteger_map {α : Type} {f : α → Json} (short : ∀ a, (f a).hasLongInteger = false) (items : List α) :
    (Json.array (items.map f)).hasLongInteger = false := by
  rw [hasLongInteger, anyLongInteger_eq_false_iff]
  simpa using fun a _ => short a

end Json

open Json

theorem Signal.hasLongInteger_toJson (s : Signal) : s.toJson.hasLongInteger = false := by
  simp [toJson, hasLongInteger, anyLongMember]

theorem Scan.Record.hasLongInteger_toJson (r : Scan.Record) : r.toJson.hasLongInteger = false := by
  have hit (h : Scan.Hit) : h.toJson.hasLongInteger = false := by
    simp [Scan.Hit.toJson, hasLongInteger, anyLongMember]
  have hits := hasLongInteger_map hit r.hits
  simpa [toJson, hasLongInteger, anyLongMember] using hits

theorem Request.Finding.hasLongInteger_toJson (f : Request.Finding) : f.toJson.hasLongInteger = false := by
  have params := hasLongInteger_map (f := Json.string) (fun _ => rfl) f.params
  have endpoint : (endpointJson f.endpoint).hasLongInteger = false := by
    cases f.endpoint <;> rfl
  simpa [toJson, toJsonWith, hasLongInteger, anyLongMember, endpoint] using params

namespace Artifact

-- The reports hold texts only, so writing one never fails for its numbers.

theorem writeJson_signals (p : Path) (signals : List Signal) : writeJson p (.array (signals.map Signal.toJson)) =
    writeText p (Json.print .report (.array (signals.map Signal.toJson))) := by
  rw [writeJson, hasLongInteger_map Signal.hasLongInteger_toJson, if_neg Bool.false_ne_true]

theorem writeJson_scan (p : Path) (report : PatternScan) :
    writeJson p report.toJson = writeText p (Json.print .report report.toJson) := by
  rw [writeJson, PatternScan.toJson, hasLongInteger_map Scan.Record.hasLongInteger_toJson,
    if_neg Bool.false_ne_true]

theorem writeJson_surface (p : Path) (report : RequestSurface) :
    writeJson p report.toJson = writeText p (Json.print .report report.toJson) := by
  rw [writeJson, RequestSurface.toJson, hasLongInteger_map Request.Finding.hasLongInteger_toJson,
    if_neg Bool.false_ne_true]

end Artifact

end SiteSurvey
