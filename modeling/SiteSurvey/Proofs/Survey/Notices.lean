import SiteSurvey.Proofs.Outcome
import SiteSurvey.Survey.Analysis

set_option autoImplicit false

namespace SiteSurvey

/-- A part of a survey that leaves no notice of some kind, however it ends. -/
def Spares {α : Type} (kind : Notice → Bool) (x : Survey α) : Prop :=
  ∀ w : World, (outcome x w).2.notices.filter kind = w.notices.filter kind

namespace Spares

variable {α β : Type} {kind : Notice → Bool} {x : Survey α}

theorem pure (a : α) : Spares kind (Pure.pure a) :=
  fun _ => rfl

theorem throw (f : Failure) : Spares kind (MonadExcept.throw f : Survey α) :=
  fun _ => rfl

theorem volume : Spares kind Survey.volume :=
  fun _ => rfl

theorem ofExcept (r : Except Failure α) : Spares kind (Survey.ofExcept r) := by
  intro w
  rw [Survey.outcome_ofExcept]

theorem change (f : Volume → Volume) : Spares kind (Survey.change f) :=
  fun _ => rfl

theorem apply (failure : Trouble → Failure) (c : Volume.Change α) : Spares kind (Survey.apply failure c) := by
  intro w
  rw [Survey.outcome_apply]

theorem note {level : Level} {logger : String} {message : Text} {fields : List (Text × Json)}
    (other : kind { level, logger, message, fields } = false) :
    Spares kind (Survey.note level logger message fields) := by
  intro w
  rw [Survey.outcome_note, List.filter_append]
  simp [other]

theorem bind {f : α → Survey β} (first : Spares kind x) (second : ∀ a, Spares kind (f a)) :
    Spares kind (x >>= f) := by
  intro w
  have here := first w
  rw [outcome_bind]
  generalize outcome x w = ended at here
  obtain ⟨r, w'⟩ := ended
  cases r with
  | ok a => exact (second a w').trans here
  | error e => exact here

theorem tryCatch {handle : Failure → Survey α} (first : Spares kind x) (second : ∀ f, Spares kind (handle f)) :
    Spares kind (MonadExcept.tryCatch x handle) := by
  intro w
  have here := first w
  rw [outcome_tryCatch]
  generalize outcome x w = ended at here
  obtain ⟨r, w'⟩ := ended
  cases r with
  | ok a => exact here
  | error f => exact (second f w').trans here

theorem mapM {f : α → Survey β} (each : ∀ a, Spares kind (f a)) (as : List α) : Spares kind (as.mapM f) := by
  induction as with
  | nil => exact .pure []
  | cons a as ih =>
    rw [List.mapM_cons]
    exact (each a).bind fun b => ih.bind fun bs => .pure (b :: bs)

theorem foldlM {f : β → α → Survey β} (each : ∀ b a, Spares kind (f b a)) (as : List α) (b : β) :
    Spares kind (as.foldlM f b) := by
  induction as generalizing b with
  | nil => exact .pure b
  | cons a as ih =>
    rw [List.foldlM_cons]
    exact (each b a).bind fun b' => ih b'

end Spares

section Parts

variable {kind : Notice → Bool}

theorem Pool.spares_each {α β : Type} {work : α → Survey β} (one : ∀ a, Spares kind (work a)) (workers : Int)
    (turns : Nat → Turn) (inputs : List α) : Spares kind (each workers turns work inputs) := by
  have finish : ∀ (n : Nat) (slots : List (Slot α β)), Spares kind (Pool.finish work n slots) := by
    intro n slots
    fun_induction Pool.finish work n slots with
    | case1 => exact .pure _
    | case2 n r rest ih => exact ih.bind fun later => .pure _
    | case3 a rest =>
      have tried : Spares kind (Survey.attempt (work a)) :=
        ((one a).bind fun b => .pure (Except.ok b)).tryCatch fun f => .pure (Except.error f)
      exact tried.bind fun r => .pure _
    | case4 n a rest ih => exact ih.bind fun later => .pure _
  rw [each]
  split
  · exact (Spares.foldlM (fun slots t => (finish _ slots).bind fun finished => .pure _) _ _).bind
      fun slots => .ofExcept (known slots)
  · exact .mapM one inputs

theorem Artifact.spares_writeText (p : Path) (content : Text) : Spares kind (writeText p content) := by
  refine (Spares.apply _ _).bind fun made => ?_
  obtain ⟨place, name⟩ := made
  dsimp only
  split
  · exact .throw _
  · refine Spares.bind ?_ fun _ => .pure p
    exact (Spares.apply _ _).tryCatch fun f => (Spares.change _).bind fun _ => .throw f

theorem Artifact.spares_writeJson (p : Path) (v : Json) : Spares kind (writeJson p v) := by
  rw [writeJson]
  split
  · exact .throw _
  · exact spares_writeText p _

theorem Source.spares_read (p : Path) (root : Option Path) : Spares kind (read p root) := by
  refine (Spares.apply _ _).bind fun s => ?_
  have rest : Spares kind (do
      let bytes ← Survey.apply (unreadable p) (Volume.ask p fun v => v.read p)
      let displayName ← Survey.ofExcept (nameFor (← Survey.volume) p root)
      return ({ path := p, text := unifyLines (Utf8.decodeLossy bytes), displayName } : Source)) :=
    (Spares.apply _ _).bind fun bytes => Spares.volume.bind fun v =>
      (Spares.ofExcept _).bind fun displayName => .pure _
  dsimp only
  split
  · exact (Spares.throw _).bind fun _ => rest
  · exact rest

end Parts

namespace Analysis

def isRejection (n : Notice) : Bool :=
  match Json.lookup n.fields (Text.ofString "event") with
  | some (.string event) => event == Text.ofString "detector_rejected"
  | _ => false

def rejection (site : String) (rejected : Text × Text) : Notice where
  level := .warning
  logger := eventLogger
  message := Text.ofString "Detector " ++ rejected.1 ++ " excluded: " ++ rejected.2
  fields := [textField "event" "detector_rejected", textField "site" site,
    field "detector" (.string rejected.1), field "error" (.string rejected.2)]

theorem isRejection_rejection (site : String) (rejected : Text × Text) :
    isRejection (rejection site rejected) = true := by
  simp [isRejection, rejection, Json.lookup, textField, field]

theorem outcome_forM_noteRejected (site : String) (rejected : List (Text × Text)) (w : World) :
    outcome (rejected.forM (noteRejected site)) w =
      (.ok ⟨⟩, { w with notices := w.notices ++ rejected.map (rejection site) }) := by
  induction rejected generalizing w with
  | nil =>
    rw [List.map_nil, List.append_nil]
    rfl
  | cons r rest ih =>
    have here : outcome (noteRejected site r) w =
        (.ok ⟨⟩, { w with notices := w.notices ++ [rejection site r] }) := rfl
    rw [List.forM, outcome_bind_ok here, ih, List.map_cons, List.append_assoc]
    rfl

theorem spares_load (folders : List DetectorFolder) : Spares isRejection (DetectorSet.load folders) := by
  have file : ∀ p, Spares isRejection (Detector.loadFile p) := by
    intro p
    rw [Detector.loadFile]
    split
    · exact .throw _
    · refine Spares.volume.bind fun v => ?_
      split
      · exact .throw _
      · split
        · exact .throw _
        · exact .throw _
        · exact .ofExcept _
        · exact .ofExcept _
  have inserted : ∀ (s : DetectorSet) p, Spares isRejection (s.insertFile p) := by
    intro s p
    refine Spares.bind (Spares.tryCatch ((file p).bind fun d => .pure _) fun f => ?_) fun r => ?_
    · split
      · exact .pure _
      · exact (Spares.throw _).bind fun _ => .pure _
    · cases r <;> exact .pure _
  have folder : ∀ (s : DetectorSet) folder, Spares isRejection (s.insertFolder folder) := by
    intro s folder
    cases folder with
    | builtin => exact .pure _
    | folder p =>
      refine (Spares.apply _ _).bind fun isFolder => ?_
      split
      · refine (Spares.apply _ _).bind fun spot => Spares.volume.bind fun v => ?_
        exact .foldlM inserted _ _
      · exact (Spares.note rfl).bind fun _ => .pure s
  exact (Spares.foldlM folder folders .empty).bind fun s => (Spares.note rfl).bind fun _ => .pure s

theorem spares_scan (radius : Int) (ds : List Detector) (site : String) (root : Option Path) (paths : List Path)
    (workers : Int) : Spares isRejection (PatternScan.scan radius ds site root paths workers) := by
  have read : ∀ p, Spares isRejection (RequestSurface.readOrNote PatternScan.logger p root) := by
    intro p
    refine Spares.bind (Spares.tryCatch ((Source.spares_read p root).bind fun s => .pure _) fun f => ?_) fun r => ?_
    · split
      · exact (Spares.note rfl).bind fun _ => .pure _
      · exact (Spares.throw _).bind fun _ => .pure _
    · cases r <;> exact .pure _
  have file : ∀ p, Spares isRejection (PatternScan.scanFile radius ds root p) := by
    intro p
    refine (read p).bind fun found => ?_
    split <;> exact .pure _
  exact (Pool.spares_each file workers Pool.inLine paths).bind fun outcomes => (Spares.note rfl).bind fun _ => .pure _

/-- A scan whose detectors have been loaded notes every rejected detector once and in order, whatever comes
after. -/
theorem notices_runPatternScan {site : String} {paths : List Path} {c : Config} {root : Option Path} {w w₁ : World}
    {out : Path} {set : DetectorSet} (located : c.analysisFolder site = .ok out)
    (loaded : outcome (DetectorSet.load c.detectorFolders) w = (.ok set, w₁)) :
    (outcome (runPatternScan site paths c root) w).2.notices.filter isRejection =
      w.notices.filter isRejection ++ set.rejected.map (rejection site) := by
  have before : w₁.notices.filter isRejection = w.notices.filter isRejection := by
    have spared := spares_load c.detectorFolders w
    rw [loaded] at spared
    exact spared
  have noted : (set.rejected.map (rejection site)).filter isRejection = set.rejected.map (rejection site) := by
    rw [List.filter_eq_self]
    intro n found
    obtain ⟨r, _, rfl⟩ := List.mem_map.mp found
    exact isRejection_rejection site r
  have after : Spares isRejection (do
      let found ← PatternScan.scan c.radius set.detectors site root paths c.workers
      let report := { found with rejected := (set.rejected.map Prod.fst).mergeSort textLessEqual }
      let machine ← Artifact.writeJson (out / machineReportFile) report.toJson
      let human ← Artifact.writeText (out / humanReportFile) (Scan.render report.records)
      Survey.note .info eventLogger ("Pattern scan saved to " ++ out.toString)
        (written site "pattern_scan" (some report.total) machine)
      return (report, machine, human)) :=
    (spares_scan _ _ _ _ _ _).bind fun found => (Artifact.spares_writeJson _ _).bind fun machine =>
      (Artifact.spares_writeText _ _).bind fun human => (Spares.note rfl).bind fun _ => .pure _
  have place : outcome (Survey.ofExcept (c.analysisFolder site)) w = (.ok out, w) := by
    rw [Survey.outcome_ofExcept, located]
  rw [runPatternScan, outcome_bind_ok place, outcome_bind_ok loaded,
    outcome_bind_ok (outcome_forM_noteRejected site set.rejected w₁), after, List.filter_append, before, noted]

end Analysis

end SiteSurvey
