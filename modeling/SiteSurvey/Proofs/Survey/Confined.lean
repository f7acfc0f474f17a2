import SiteSurvey.Proofs.Site.Hostname
import SiteSurvey.Proofs.Survey.Passes
import SiteSurvey.Proofs.Volume.Alike
import SiteSurvey.Proofs.Volume.Trail

set_option autoImplicit false

namespace SiteSurvey

namespace Volume

/-- A place at which all is as it was, or where a folder has been made. -/
def Spared (v v' : Volume) (l : Location) : Prop :=
  v'.get? l = v.get? l ∨ v.get? l = none ∧ v'.get? l = some .folder

/-- What a piece of work in a folder may do to a volume: outside of the folder it makes no more than folders, and
no link comes to stand where a path can lead. -/
structure Confined (base : Location) (v v' : Volume) : Prop where
  outside : ∀ l, l.below? base = none → Spared v v' l
  links : ∀ l target, l.IsPlain → v'.get? l = some (.link target) → v.get? l = some (.link target)

namespace Confined

variable {base : Location} {v v' v'' : Volume}

theorem refl (base : Location) (v : Volume) : Confined base v v :=
  ⟨fun _ _ => .inl rfl, fun _ _ _ => id⟩

theorem trans (first : Confined base v v') (second : Confined base v' v'') : Confined base v v'' := by
  refine ⟨fun l far => ?_, fun l target plain link => first.links l target plain (second.links l target plain link)⟩
  rcases first.outside l far with same | ⟨absent, made⟩
  · rw [Spared, ← same]
    exact second.outside l far
  · rcases second.outside l far with stays | ⟨absent', _⟩
    · exact .inr ⟨absent, stays.trans made⟩
    · cases made.symm.trans absent'

theorem of_grown (grown : Grown v v') : Confined base v v' := by
  refine ⟨fun l _ => ?_, fun l target _ link => ?_⟩
  · rcases grown.get? l with same | ⟨_, absent, made⟩
    · exact .inl same
    · exact .inr ⟨absent, made⟩
  · rcases grown.get? l with same | ⟨_, _, made⟩
    · rw [← same, link]
    · cases made.symm.trans link

theorem direct (confined : Confined base v v') {p : Path} (direct : Direct v p) : Direct v' p := by
  intro xs inside target link
  exact direct xs inside target (confined.links _ target ((isPlain_origin p).follow xs) link)

end Confined

theorem ne_child_of_below? {l base : Location} (far : l.below? base = none) (n : Name) : l ≠ base.child n := by
  rintro rfl
  simp [Location.below?, Location.child] at far

end Volume

open Volume

namespace Artifact

variable {v v' : Volume} {out : Path} {name : String} {content : Text} {system : System} {r : Except Failure Path}

/-- A write to a folder whose path has no links stays in the folder, its temporary file as well. -/
theorem Ending.confined (ending : Ending v (out.child name) content system r v') (proper : name ≠ "..")
    (direct : Direct v out) : Confined (trail out) v v' := by
  -- Without links on its way the folder is the one that the names of the path spell out, for the temporary file
  -- as well as for the file itself.
  have grown := grown_ensureFolders v (out.child name).parent system
  have ready : Confined (trail out) v _ := .of_grown grown
  have direct' := ready.direct direct
  cases ending with
  | unbegun _ => exact ready
  | abandoned _ made room _ others =>
    rw [made] at ready direct'
    rw [Path.parent_child] at room
    obtain rfl := room.eq_trail direct'.straight
    rw [trail_straight] at others
    refine ready.trans ⟨fun l far => .inl (others l (ne_child_of_below? far _)), fun l target plain link => ?_⟩
    rw [← others l (ne_temporary_of_isPlain plain _ _ _), link]
  | landed _ made room _ found _ =>
    rw [made] at ready direct'
    rw [Path.parent_child] at room
    obtain rfl := room.eq_trail direct'.straight
    rw [trail_straight, Path.name_child] at found ⊢
    have before := lookup_of_same (fun l plain => get?_drafted plain) found
    obtain ⟨_, _, place, there, rfl⟩ := (lookup_child_iff proper).mp before
    obtain rfl := there.eq_trail direct'
    refine ready.trans ⟨fun l far => ?_, fun l target plain link => ?_⟩
    · left
      rw [get?_settled_of_ne (child_names_ne_nil _ _) (ne_child_of_below? far _), if_neg (ne_child_of_below? far _)]
    · rw [get?_settled_of_ne (child_names_ne_nil _ _) (ne_temporary_of_isPlain plain _ _ _)] at link
      split at link
      · cases link
      · exact link

end Artifact

/-- A part of a survey that stays in a folder whose path has no links, whether or not it succeeds. -/
def Keeps {α : Type} (out : Path) (x : Survey α) : Prop :=
  ∀ w : World, Direct w.volume out → Confined (trail out) w.volume (outcome x w).2.volume

namespace Keeps

variable {α β : Type} {out : Path} {x : Survey α}

theorem of_quiet {answer : Volume → Except Failure α} (quiet : Quiet x answer) : Keeps out x := by
  intro w _
  obtain ⟨added, run⟩ := quiet w
  rw [run]
  exact .refl _ _

theorem bind {f : α → Survey β} (first : Keeps out x)
    (second : ∀ w a w', outcome x w = (.ok a, w') → Keeps out (f a)) : Keeps out (x >>= f) := by
  intro w direct
  -- The first part makes no links, so the second still finds a path without links.
  have here := first w direct
  rw [outcome_bind]
  cases run : outcome x w with
  | mk r w₁ =>
    rw [run] at here
    cases r with
    | error f => exact here
    | ok a => exact here.trans (second w a w₁ run w₁ (here.direct direct))

theorem writeText {name : String} (proper : name ≠ "..") (content : Text) :
    Keeps out (Artifact.writeText (out.child name) content) := by
  intro w direct
  obtain ⟨r, v', ended, ending⟩ := Artifact.writeText_ends (out.child name) content .willing w
  rw [ended]
  exact ending.confined proper direct

theorem uniquePath (folder : Path) (opening ending : String) :
    Keeps out (Artifact.uniquePath folder opening ending) := by
  intro w _
  rw [Artifact.outcome_uniquePath, Artifact.state_firstFree]
  exact .refl _ _

end Keeps

namespace Signal

theorem keeps_save (out : Path) (name : String) (signals : List Signal) (total : Nat) :
    Keeps out (save (out.child name) signals total) := by
  rw [save, Path.parent_child]
  refine (Keeps.uniquePath out fileStart ".json").bind fun w path w' searched => ?_
  -- The search answers a single name in the folder of the report.
  rw [Artifact.outcome_uniquePath] at searched
  obtain ⟨_, k, _, here, _, _⟩ := Artifact.firstFree_eq_ok searched
  rw [Artifact.candidate_eq_child _ _ _ _ _ (by decide) (by decide)] at here
  have proper := Artifact.candidateName_proper fileStart ".json" w.clock k
  have written : Keeps out (Artifact.writeJson path (.array (signals.map toJson))) := by
    rw [here, Artifact.writeJson_signals]
    exact Keeps.writeText proper _
  refine written.bind fun _ _ _ _ => ?_
  exact (Keeps.of_quiet (.note _ _ _ _)).bind fun _ _ _ _ => .of_quiet (.pure _)

theorem keeps_extract (out : Path) (name : String) : Keeps out (extract (out.child name)) := by
  intro w direct
  rcases extract_cases (out.child name) w with ⟨f, failed⟩ | ⟨_, signals, total, saved⟩
  · rw [failed]
    exact .refl _ _
  · rw [saved]
    exact keeps_save out name signals total w direct

end Signal

namespace Analysis

variable {site : String} {c : Config} {out : Path} (located : c.analysisFolder site = .ok out)

include located

theorem keeps_runRequestSurface (paths : List Path) (root : Option Path) :
    Keeps out (runRequestSurface site paths c root) := by
  rw [runRequestSurface, located]
  refine (Keeps.of_quiet (.ofExcept _)).bind fun _ _ _ answer => ?_
  rw [Survey.outcome_ofExcept] at answer
  obtain rfl := Except.ok.inj (Prod.mk.inj answer).1
  refine (Keeps.of_quiet (RequestSurface.quiet_analyze _ _ _ _ _ _)).bind fun _ report _ _ => ?_
  rw [div_requestSurfaceFile, Artifact.writeJson_surface]
  refine (Keeps.writeText (by decide) _).bind fun _ _ _ _ => ?_
  exact (Keeps.of_quiet (.note _ _ _ _)).bind fun _ _ _ _ => .of_quiet (.pure _)

theorem keeps_runPatternScan (paths : List Path) (root : Option Path) :
    Keeps out (runPatternScan site paths c root) := by
  rw [runPatternScan_eq, located]
  refine (Keeps.of_quiet (.ofExcept _)).bind fun _ _ _ answer => ?_
  rw [Survey.outcome_ofExcept] at answer
  obtain rfl := Except.ok.inj (Prod.mk.inj answer).1
  refine (Keeps.of_quiet (quiet_prepareScan site paths c root)).bind fun _ report _ _ => ?_
  rw [div_machineReportFile, div_humanReportFile, Artifact.writeJson_scan]
  refine (Keeps.writeText (by decide) _).bind fun _ _ _ _ => ?_
  refine (Keeps.writeText (by decide) _).bind fun _ _ _ _ => ?_
  exact (Keeps.of_quiet (.note _ _ _ _)).bind fun _ _ _ _ => .of_quiet (.pure _)

theorem keeps_runTriage : Keeps out (runTriage site c) := by
  rw [runTriage, located]
  refine (Keeps.of_quiet (.ofExcept _)).bind fun _ _ _ answer => ?_
  rw [Survey.outcome_ofExcept] at answer
  obtain rfl := Except.ok.inj (Prod.mk.inj answer).1
  rw [div_machineReportFile]
  refine (Signal.keeps_extract out machineReportFile).bind fun _ _ _ _ => ?_
  exact (Keeps.of_quiet (.note _ _ _ _)).bind fun _ _ _ _ => .of_quiet (.pure _)

theorem keeps_run (folder : Path) : Keeps out (run site folder c) := by
  refine (Keeps.of_quiet (.ofExcept _)).bind fun _ _ _ _ => ?_
  refine (Keeps.of_quiet (Source.quiet_collect folder c.extensions)).bind fun _ paths _ _ => ?_
  refine (Keeps.of_quiet (.note _ _ _ _)).bind fun _ _ _ _ => ?_
  refine (keeps_runRequestSurface located paths (some folder)).bind fun _ _ _ _ => ?_
  refine (keeps_runPatternScan located paths (some folder)).bind fun _ _ _ _ => ?_
  exact (keeps_runTriage located).bind fun _ _ _ _ => .of_quiet (.pure _)

end Analysis

inductive Pass where
  | requestSurface (paths : List Path) (root : Option Path)
  | patternScan (paths : List Path) (root : Option Path)
  | triage
  | whole (folder : Path)

namespace Pass

def leaves (site : String) (c : Config) (w : World) : Pass → Volume
  | requestSurface paths root => (outcome (Analysis.runRequestSurface site paths c root) w).2.volume
  | patternScan paths root => (outcome (Analysis.runPatternScan site paths c root) w).2.volume
  | triage => (outcome (Analysis.runTriage site c) w).2.volume
  | whole folder => (outcome (Analysis.run site folder c) w).2.volume

theorem confined {site : String} {c : Config} {out : Path} (located : c.analysisFolder site = .ok out) (pass : Pass)
    (w : World) (direct : Direct w.volume out) : Confined (trail out) w.volume (pass.leaves site c w) := by
  cases pass with
  | requestSurface paths root => exact Analysis.keeps_runRequestSurface located paths root w direct
  | patternScan paths root => exact Analysis.keeps_runPatternScan located paths root w direct
  | triage => exact Analysis.keeps_runTriage located w direct
  | whole folder => exact Analysis.keeps_run located folder w direct

end Pass

theorem below?_apart {l a b : Location} (same : a.names.length = b.names.length) (differ : a ≠ b)
    (inside : l.below? a ≠ none) : l.below? b = none := by
  simp only [Location.below?, Bool.and_eq_true, beq_iff_eq, List.isPrefixOf_iff_prefix] at inside ⊢
  split at inside
  · rename_i here
    -- Of two beginnings of one list of names that are equally long, one is the other.
    refine if_neg fun there => differ ?_
    have names := (List.prefix_of_prefix_length_le here.2 there.2 (Nat.le_of_eq same)).eq_of_length same
    cases a
    cases b
    simp_all
  · exact absurd rfl inside

theorem trail_analysis (root : Path) {host : String} (proper : host ≠ "..") :
    trail ((root.child host).child "analysis") =
      ((trail root).child (.plain host)).child (.plain "analysis") := by
  rw [trail_child _ (by decide), trail_child _ proper]

theorem trail_analysis_ne (root : Path) {host host' : String} (proper : host ≠ "..") (proper' : host' ≠ "..")
    (differ : host' ≠ host) :
    trail ((root.child host').child "analysis") ≠ trail ((root.child host).child "analysis") ∧
      (trail ((root.child host').child "analysis")).names.length =
        (trail ((root.child host).child "analysis")).names.length := by
  rw [trail_analysis root proper, trail_analysis root proper']
  constructor
  · intro same
    have names := congrArg Location.names same
    simp only [Location.child, List.append_assoc, List.append_cancel_left_eq, List.cons_append, List.nil_append,
      List.cons.injEq, Name.plain.injEq, and_true] at names
    exact differ names
  · simp [Location.child]

def neighbourReport : Location :=
  ⟨0, [.plain "out", .plain "y", .plain "analysis", .plain "goods_machine.json"]⟩

def neighbourWorld : World where
  volume := ⟨[(⟨0, [.plain "out"]⟩, .folder), (⟨0, [.plain "out", .plain "y"]⟩, .folder),
    (⟨0, [.plain "out", .plain "y", .plain "analysis"]⟩, .folder), (neighbourReport, .file ByteArray.empty)], 0⟩
  clock := .ofSeconds 0
  notices := []

def neighbourConfig : Config :=
  { Config.usual with outputRoot := ⟨.relative, ["out"]⟩ }

theorem direct_neighbour (p : Path) : Direct neighbourWorld.volume p := by
  have none : ∀ e ∈ neighbourWorld.volume.entries, e.2.isLink = false := by simp [neighbourWorld, Entry.isLink]
  intro xs _ target link
  have named := names_ne_nil_of_get?_ne_folder (v := neighbourWorld.volume) (by rw [link]; rintro ⟨⟩)
  cases none _ (mem_of_get? link named)

end SiteSurvey
