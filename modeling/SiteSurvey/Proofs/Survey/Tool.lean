import SiteSurvey.Proofs.Survey.Foreseen
import SiteSurvey.Proofs.Survey.Run
import SiteSurvey.Survey.Tool

set_option autoImplicit false

namespace SiteSurvey.Tool

open Analysis Artifact Volume

inductive Call where
  | requestSurface (site folder : String) (output : Option String)
  | patternScan (site folder : String) (folders : List String) (output : Option String)
  | signals (site : String) (output : Option String)
  | analysis (site folder : String) (output : Option String)

namespace Call

def answer : Call → Survey Text
  | requestSurface site folder output => extractRequestSurface site folder output
  | patternScan site folder folders output => runPatternScan site folder folders output
  | signals site output => extractSignals site output
  | analysis site folder output => analyzeSite site folder output

-- What the guard is put around.
def work : Call → Survey Text
  | requestSurface site folder output => Tool.requestSurface site folder output
  | patternScan site folder folders output => Tool.patternScan site folder folders output
  | signals site output => Tool.signals site output
  | analysis site folder output => Tool.analysis site folder output

def site : Call → String
  | requestSurface site _ _ | patternScan site _ _ _ | signals site _ | analysis site _ _ => site

def doing : Call → String
  | requestSurface _ _ _ => "extracting request surface for"
  | patternScan _ _ _ _ => "running pattern scan for"
  | signals _ _ => "extracting signals for"
  | analysis _ _ _ => "analyzing"

theorem answer_eq (call : Call) : call.answer = guarded call.doing call.site call.work := by
  cases call <;> rfl

def complaint (call : Call) (f : Failure) : Notice :=
  { level := .error, logger, fields := [],
    message := Text.ofString ("Error " ++ call.doing ++ " " ++ call.site ++ ": ") ++ f.message }

/-- What a call is to find so that it has an answer. Each kind of call needs an address that can be read. To write
reports, it needs a folder that can be spoken of, and whole characters to write. -/
def Harmless (w : World) : Call → Prop
  | requestSurface site folder output =>
      Site.HasAddress site ∧ Speakable (config output []) site ∧
        WholeFindings w.volume (config output []) (.ofString folder)
  | patternScan site _ folders output =>
      Site.HasAddress site ∧ Speakable (config output folders) site ∧ w.volume.Sober
  | signals site output => Site.HasAddress site ∧ LegibleReport w.volume (config output []) site
  | analysis site folder output =>
      Site.HasAddress site ∧ Speakable (config output []) site ∧
        WholeFindings w.volume (config output []) (.ofString folder)

end Call

theorem tame_requestSurface {w : World} {site folder : String} {output : Option String} (nullFree : NullFree w.volume)
    (address : Site.HasAddress site) (speakable : Speakable (config output []) site)
    (whole : WholeFindings w.volume (config output []) (.ofString folder)) :
    Tame (requestSurface site folder output) w := by
  refine Tame.bind_quiet (Source.quiet_collect _ _) (fun f => Source.collectIn_foreseen) fun paths _ collected => ?_
  refine FailsOnly.bind (tame_runRequestSurface address speakable
    (fun p => Source.regular_of_collectIn nullFree collected) (whole paths collected)) fun report w₁ _ => ?_
  exact FailsOnly.bind (.of_ok outcome_get) fun _ _ _ => .pure _

theorem tame_patternScan {w : World} {site folder : String} {folders : List String} {output : Option String}
    (nullFree : NullFree w.volume) (address : Site.HasAddress site)
    (speakable : Speakable (config output folders) site) (sober : w.volume.Sober) :
    Tame (patternScan site folder folders output) w := by
  refine Tame.bind_quiet (Source.quiet_collect _ _) (fun f => Source.collectIn_foreseen) fun paths _ collected => ?_
  refine FailsOnly.bind (tame_runPatternScan address speakable (fun f => DetectorSet.loadIn_foreseen sober)
    (fun p => Source.regular_of_collectIn nullFree collected)) fun report w₁ _ => ?_
  exact FailsOnly.bind (.of_ok outcome_get) fun _ _ _ => .pure _

theorem tame_itemCount {w : World} {p : Path} (clean : p.names.all isNullFree = true)
    (decodes : ∀ bytes, w.volume.read p = .ok bytes → ∃ t, Utf8.decode bytes = .ok t) : Tame (itemCount p) w := by
  refine (Signal.tame_readText clean decodes).bind fun text w₁ _ => ?_
  split
  · exact .pure _
  · exact .pure _

theorem tame_analysis {w : World} {site folder : String} {output : Option String} (nullFree : NullFree w.volume)
    (address : Site.HasAddress site) (speakable : Speakable (config output []) site)
    (whole : WholeFindings w.volume (config output []) (.ofString folder)) :
    Tame (analysis site folder output) w := by
  have builtin : ∀ d ∈ (config output []).detectorFolders, d = .builtin := by
    simp [config, Config.usual]
  refine (tame_run nullFree address speakable builtin whole).bind fun a w₁ _ => ?_
  exact FailsOnly.bind (.of_ok outcome_get) fun _ _ _ => .pure _

theorem tame_signals {w : World} {site : String} {output : Option String} (address : Site.HasAddress site)
    (legible : LegibleReport w.volume (config output []) site) : Tame (signals site output) w := by
  refine (tame_runTriage address legible).bind fun path w₁ triaged => ?_
  obtain ⟨out, w₂, notices, _, extracted, rfl⟩ := runTriage_eq_ok triaged
  -- The signals are read back from the file that has just been written.
  obtain ⟨clean, decodes⟩ := Signal.extract_eq_ok extracted
  refine (tame_itemCount (w := { w₂ with notices }) clean decodes).bind fun _ _ _ => .pure _

theorem Call.tame_work {w : World} {call : Call} (nullFree : NullFree w.volume) (harmless : call.Harmless w) :
    Tame call.work w := by
  cases call with
  | requestSurface site folder output =>
    obtain ⟨address, speakable, whole⟩ := harmless
    exact tame_requestSurface nullFree address speakable whole
  | patternScan site folder folders output =>
    obtain ⟨address, speakable, sober⟩ := harmless
    exact tame_patternScan nullFree address speakable sober
  | signals site output =>
    obtain ⟨address, legible⟩ := harmless
    exact tame_signals address legible
  | analysis site folder output =>
    obtain ⟨address, speakable, whole⟩ := harmless
    exact tame_analysis nullFree address speakable whole

section Guard

variable (doing site : String) {act : Survey Text} {w w' : World} {f : Failure} {text : Text}

theorem outcome_guarded_ok (ends : outcome act w = (.ok text, w')) :
    outcome (guarded doing site act) w = (.ok text, w') :=
  outcome_tryCatch_ok ends

theorem outcome_guarded_foreseen (ends : outcome act w = (.error f, w')) (foreseen : f.isForeseen = true) :
    outcome (guarded doing site act) w =
      (.ok (Text.ofString "Error: " ++ f.message),
        { w' with notices := w'.notices ++ [{
            level := .error, logger, fields := [],
            message := Text.ofString ("Error " ++ doing ++ " " ++ site ++ ": ") ++ f.message }] }) := by
  refine (outcome_tryCatch_error ends).trans ?_
  simp only [foreseen, if_true]
  rfl

theorem outcome_guarded_unforeseen (ends : outcome act w = (.error f, w')) (unforeseen : f.isForeseen = false) :
    outcome (guarded doing site act) w = (.error f, w') := by
  refine (outcome_tryCatch_error ends).trans ?_
  simp only [unforeseen, Bool.false_eq_true, if_false]
  rfl

end Guard

theorem config_sample : config (some "out") [] = sampleConfig := by decide

end SiteSurvey.Tool
