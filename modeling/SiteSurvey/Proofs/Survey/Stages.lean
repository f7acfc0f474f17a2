import SiteSurvey.Proofs.Survey.Pool
import SiteSurvey.Survey.Analysis

set_option autoImplicit false

namespace SiteSurvey

namespace Source

def readIn (v : Volume) (p : Path) (root : Option Path) : Except Failure Source := do
  let s ← (v.find p).mapError fun fault => unreadable p (.at_ fault p.toString)
  if maxSize < (s.entry.getD .folder).bytes.size then
    throw (.unreadable ("File too large (max 10MB): " ++ p.toString))
  let bytes ← (v.read p).mapError fun fault => unreadable p (.at_ fault p.toString)
  let displayName ← nameFor v p root
  return { path := p, text := unifyLines (Utf8.decodeLossy bytes), displayName }

theorem quiet_read (p : Path) (root : Option Path) : Quiet (read p root) (readIn · p root) := by
  have rest : Quiet (do
        let bytes ← Survey.apply (unreadable p) (Volume.ask p fun v => v.read p)
        let displayName ← Survey.ofExcept (nameFor (← Survey.volume) p root)
        return ({ path := p, text := unifyLines (Utf8.decodeLossy bytes), displayName } : Source))
      fun v => do
        let bytes ← (v.read p).mapError fun fault => unreadable p (.at_ fault p.toString)
        let displayName ← nameFor v p root
        return { path := p, text := unifyLines (Utf8.decodeLossy bytes), displayName } :=
    (Quiet.applyAsk (unreadable p) p fun v => v.read p).bind fun bytes =>
      .withVolume fun u => (Quiet.ofExcept (nameFor u p root)).bind fun displayName => .pure _
  refine (Quiet.applyAsk (unreadable p) p fun v => v.find p).bind fun s => ?_
  by_cases large : maxSize < (s.entry.getD .folder).bytes.size
  · simp only [if_pos large]
    exact (Quiet.throw _).bind fun _ => rest
  · simp only [if_neg large]
    exact rest

def collectIn (v : Volume) (root : Path) (extensions : List String) : Except Failure (List Path) := do
  let isFolder ← (v.isFolder root).mapError fun fault => Failure.ofTrouble (.at_ fault root.toString)
  if !isFolder then throw (.invalidInput ("Source directory not found: " ++ root.toString))
  let s ← (v.find root).mapError fun fault => Failure.ofTrouble (.at_ fault root.toString)
  search v root s.place (extensions.map Text.lowerString)

theorem quiet_collect (root : Path) (extensions : List String) :
    Quiet (collect root extensions) (collectIn · root extensions) := by
  have rest : Quiet (do
        let s ← Survey.ask root fun v => v.find root
        Survey.ofExcept (search (← Survey.volume) root s.place (extensions.map Text.lowerString)))
      (fun v => do
        let s ← (v.find root).mapError fun fault => Failure.ofTrouble (.at_ fault root.toString)
        search v root s.place (extensions.map Text.lowerString)) :=
    (Quiet.ask root fun v => v.find root).bind fun s => .withVolume fun u => .ofExcept _
  refine (Quiet.ask root fun v => v.isFolder root).bind fun isFolder => ?_
  cases isFolder with
  | false => exact (Quiet.throw _).bind fun _ => rest
  | true => exact rest

end Source

namespace RequestSurface

def readable (v : Volume) (root : Option Path) (p : Path) : Except Failure (Option Source) :=
  match Source.readIn v p root with
  | .ok s => .ok (some s)
  | .error (.unreadable _) => .ok none
  | .error f => .error f

theorem outcome_readOrNote (logger : String) (p : Path) (root : Option Path) (w : World) :
    outcome (readOrNote logger p root) w =
      match outcome (Source.read p root) w with
      | (.ok s, w') => (.ok (some s), w')
      | (.error (.unreadable message), w') =>
          (.ok none, { w' with notices := w'.notices ++ [{
            level := .warning, logger, message := Text.ofString "Skipping unreadable file: " ++ message,
            fields := [] }] })
      | (.error f, w') => (.error f, w') := by
  rw [readOrNote, outcome_bind, outcome_tryCatch, outcome_bind]
  cases outcome (Source.read p root) w with
  | mk r w' =>
    cases r with
    | ok s => rfl
    | error f => cases f <;> rfl

theorem quiet_readOrNote (logger : String) (p : Path) (root : Option Path) :
    Quiet (readOrNote logger p root) (readable · root p) := by
  intro w
  obtain ⟨added, run⟩ := Source.quiet_read p root w
  rw [outcome_readOrNote, run]
  simp only [readable]
  cases Source.readIn w.volume p root with
  | ok s => exact ⟨added, rfl⟩
  | error f =>
    cases f with
    | unreadable message =>
      simp only [List.append_assoc]
      exact ⟨_, rfl⟩
    | _ => exact ⟨added, rfl⟩

def outcomeIn (v : Volume) (senders : Request.Senders) (root : Option Path) (p : Path) :
    Except Failure Outcome := do
  match ← readable v root p with
  | none => return { file := p.toString, findings := none }
  | some s => return { file := s.displayName, findings := findingsOf senders s }

theorem quiet_analyzeFile (senders : Request.Senders) (root : Option Path) (p : Path) :
    Quiet (analyzeFile senders root p) (outcomeIn · senders root p) := by
  refine (quiet_readOrNote logger p root).bind fun found => ?_
  cases found with
  | none => exact .pure _
  | some s => exact .pure _

theorem quiet_analyze (senders : Request.Senders) (site : String) (root : Option Path) (paths : List Path)
    (workers : Int) (turns : Nat → Pool.Turn) :
    Quiet (analyze senders site root paths workers turns) fun v => do
      return ofOutcomes site (← paths.mapM (outcomeIn v senders root)) := by
  refine (Pool.quiet_each (quiet_analyzeFile senders root) workers turns paths).bind fun outcomes => ?_
  exact (Quiet.note _ _ _ _).bind fun _ => .pure _

end RequestSurface

namespace PatternScan

def outcomeIn (v : Volume) (radius : Int) (ds : List Detector) (root : Option Path) (p : Path) :
    Except Failure Outcome := do
  match ← RequestSurface.readable v root p with
  | none => return { file := p.toString, records := none }
  | some s => return { file := s.displayName, records := some (Scan.records radius s.displayName s.text ds) }

theorem quiet_scanFile (radius : Int) (ds : List Detector) (root : Option Path) (p : Path) :
    Quiet (scanFile radius ds root p) (outcomeIn · radius ds root p) := by
  refine (RequestSurface.quiet_readOrNote logger p root).bind fun found => ?_
  cases found with
  | none => exact .pure _
  | some s => exact .pure _

theorem quiet_scan (radius : Int) (ds : List Detector) (site : String) (root : Option Path)
    (paths : List Path) (workers : Int) (turns : Nat → Pool.Turn) :
    Quiet (scan radius ds site root paths workers turns) fun v => do
      return ofOutcomes site ds (← paths.mapM (outcomeIn v radius ds root)) := by
  refine (Pool.quiet_each (quiet_scanFile radius ds root) workers turns paths).bind fun outcomes => ?_
  exact (Quiet.note _ _ _ _).bind fun _ => .pure _

end PatternScan

namespace Detector

def loadIn (v : Volume) (p : Path) : Except Failure Detector :=
  if !p.toString.endsWith ".py" then .error (Refusal.failure (.rejected p.name (.wrongSuffix p.toString)))
  else
    match v.lookup true p with
    | .error fault =>
        .error (Refusal.failure (.rejected p.name (.importFailed (Trouble.at_ fault p.toString).message)))
    | .ok s =>
        match s.entry with
        | none =>
            .error (Refusal.failure (.rejected p.name (.importFailed (Trouble.at_ .missing p.toString).message)))
        | some .folder =>
            .error (Refusal.failure (.rejected p.name (.importFailed (Trouble.at_ .isFolder p.toString).message)))
        | some (.plugin plugin) => (plugin.load p.name).mapError Refusal.failure
        | some _ => (Plugin.blank.load p.name).mapError Refusal.failure

theorem outcome_loadFile (p : Path) (w : World) : outcome (loadFile p) w = (loadIn w.volume p, w) := by
  rw [loadFile, loadIn]
  split
  · rfl
  · rw [outcome_bind_ok Survey.outcome_volume]
    cases w.volume.lookup true p with
    | error fault => rfl
    | ok s =>
      obtain ⟨place, entry⟩ := s
      cases entry with
      | none => rfl
      | some e =>
        cases e with
        | folder => rfl
        | plugin plugin => exact Survey.outcome_ofExcept _
        | file bytes => exact Survey.outcome_ofExcept _
        | link target => exact Survey.outcome_ofExcept _

end Detector

namespace DetectorSet

def insertIn (v : Volume) (s : DetectorSet) (p : Path) : Except Failure DetectorSet :=
  match Detector.loadIn v p with
  | .ok d => .ok (s.insert d p.toString)
  | .error (.detector name message) =>
      .ok (s.reject (if name.isEmpty then Text.ofString p.name else name) message)
  | .error f => .error f

theorem quiet_insertFile (s : DetectorSet) (p : Path) : Quiet (s.insertFile p) (insertIn · s p) := by
  refine .of_unchanged fun w => ?_
  rw [insertFile, outcome_bind, outcome_tryCatch, outcome_bind, Detector.outcome_loadFile, insertIn]
  cases Detector.loadIn w.volume p with
  | ok d => rfl
  | error f => cases f <;> rfl

def folderIn (v : Volume) (s : DetectorSet) : DetectorFolder → Except Failure DetectorSet
  | .builtin => .ok s.insertBuiltin
  | .folder p => do
      let isFolder ← (v.isFolder p).mapError fun fault => Failure.ofTrouble (.at_ fault p.toString)
      if isFolder then
        let spot ← (v.find p).mapError fun fault => Failure.ofTrouble (.at_ fault p.toString)
        (candidates v p spot.place).foldlM (insertIn v) s
      else return s

theorem quiet_insertFolder (s : DetectorSet) (folder : DetectorFolder) :
    Quiet (s.insertFolder folder) (folderIn · s folder) := by
  cases folder with
  | builtin => exact .pure _
  | folder p =>
    refine (Quiet.ask p fun v => v.isFolder p).bind fun isFolder => ?_
    cases isFolder with
    | false => exact (Quiet.note _ _ _ _).bind fun _ => .pure s
    | true =>
      refine (Quiet.ask p fun v => v.find p).bind fun spot => ?_
      intro w
      have files := Quiet.foldlM (fun s p => quiet_insertFile s p) (candidates w.volume p spot.place) s w
      obtain ⟨added, run⟩ := files
      refine ⟨added, ?_⟩
      rw [outcome_bind_ok Survey.outcome_volume]
      exact run

def loadIn (v : Volume) (folders : List DetectorFolder) : Except Failure DetectorSet :=
  folders.foldlM (folderIn v) empty

theorem quiet_load (folders : List DetectorFolder) : Quiet (load folders) (loadIn · folders) := by
  refine ((Quiet.foldlM quiet_insertFolder folders empty).bind fun s =>
    (Quiet.note _ _ _ _).bind fun _ => .pure s).congr fun v => ?_
  exact bind_pure (loadIn v folders)

end DetectorSet

end SiteSurvey
