import SiteSurvey.Proofs.Survey.Corpus
import SiteSurvey.Proofs.Survey.Run

set_option autoImplicit false

namespace SiteSurvey

open Volume

theorem mapM_append_error {ε α β : Type} {f : α → Except ε β} {g : α → β} {before after : List α} {a : α} {e : ε}
    (fine : ∀ b ∈ before, f b = .ok (g b)) (failed : f a = .error e) :
    (before ++ a :: after).mapM f = .error e := by
  induction before with
  | nil =>
    rw [List.nil_append, List.mapM_cons, failed]
    rfl
  | cons b before ih =>
    rw [List.forall_mem_cons] at fine
    rw [List.cons_append, List.mapM_cons, fine.1, ih fine.2]
    rfl

-- What each step adds one to counts the steps.
theorem foldl_counts {ρ ο : Type} {add : ρ → ο → ρ} (size : ρ → Nat) (step : ∀ r o, size (add r o) = size r + 1)
    (r : ρ) (os : List ο) : size (os.foldl add r) = size r + os.length := by
  induction os generalizing r with
  | nil => rfl
  | cons o os ih =>
    rw [List.foldl_cons, ih, step, List.length_cons]
    omega

namespace Source

variable {v : Volume} {p : Path} {root : Option Path}

theorem readIn_of_irregular (irregular : ¬Regular v root p) :
    ∃ f, readIn v p root = .error f ∧ f.isForeseen = false := by
  by_cases clean : p.names.all isNullFree = true
  · have looped : ∃ r place, root = some r ∧ v.locate r = .error (.linkLoop place) ∧
        ∀ message, readIn v p none ≠ .error (.unreadable message) := by
      by_contra none
      refine irregular ⟨clean, fun r place here looped => ?_⟩
      by_contra readable
      exact none ⟨r, place, here, looped, fun message failed => readable ⟨message, failed⟩⟩
    -- The file can be read, and it is its name that cannot be told.
    obtain ⟨r, place, rfl, looped, readable⟩ := looped
    obtain ⟨s, read⟩ := (readIn_none_cases clean).resolve_right fun ⟨message, failed⟩ => readable message failed
    obtain ⟨spot, found⟩ := lookup_of_readIn read
    rw [readIn_root, read, nameFor, placeOf?, locate_of_lookup found, placeOf?, looped]
    exact ⟨_, rfl, rfl⟩
  · rw [Bool.not_eq_true] at clean
    rw [readIn_eq, lookup, any_null, clean, Bool.not_false, if_pos rfl]
    exact ⟨_, rfl, rfl⟩

end Source

/-- A pass over files always comes to the same on a volume: neither the number of workers nor the order in which
they get done counts, and the volume stays as it is. -/
def Settled {α : Type} (pass : Int → (Nat → Pool.Turn) → Survey α) (v : Volume) (r : Except Failure α) : Prop :=
  ∀ workers turns w, w.volume = v → ∃ notices, outcome (pass workers turns) w = (r, { w with notices })

theorem settled_of_quiet {α : Type} {pass : Int → (Nat → Pool.Turn) → Survey α} {answer : Volume → Except Failure α}
    (quiet : ∀ workers turns, Quiet (pass workers turns) answer) {v : Volume} {r : Except Failure α}
    (answered : answer v = r) : Settled pass v r := by
  rintro workers turns w rfl
  obtain ⟨added, run⟩ := quiet workers turns w
  exact ⟨_, by rw [run, answered]⟩

namespace RequestSurface

/-- The name under which a file is listed that can be read and is not inside its language. -/
def unparsed (v : Volume) (senders : Request.Senders) (root : Option Path) (p : Path) : Option String :=
  match Source.readIn v p root with
  | .ok s => if (findingsOf senders s).isNone then some s.displayName else none
  | .error _ => none

theorem silent_eq (v : Volume) (senders : Request.Senders) (root : Option Path) (p : Path) :
    silent v senders root p = (Source.lost v root p).or (unparsed v senders root p) := by
  rw [silent, Source.lost, unparsed]
  cases Source.readIn v p root <;> rfl

/-- A report accounts for files: each of them counts once, as analyzed or as not, what it holds is listed in the order
of the files, and so are the files that cannot be read or are not inside their language. -/
structure Accounts (v : Volume) (senders : Request.Senders) (root : Option Path) (paths : List Path)
    (r : RequestSurface) : Prop where
  tally : r.analyzed + r.unanalyzable.length = paths.length
  findings : r.findings = paths.flatMap (findingsIn v senders root)
  unanalyzable : r.unanalyzable = paths.filterMap fun p => (Source.lost v root p).or (unparsed v senders root p)

structure Joins (r r₁ r₂ : RequestSurface) : Prop where
  analyzed : r.analyzed = r₁.analyzed + r₂.analyzed
  findings : r.findings = r₁.findings ++ r₂.findings
  unanalyzable : r.unanalyzable = r₁.unanalyzable ++ r₂.unanalyzable

theorem add_tally (r : RequestSurface) (o : Outcome) :
    (r.add o).analyzed + (r.add o).unanalyzable.length = r.analyzed + r.unanalyzable.length + 1 := by
  rw [add]
  cases o.findings with
  | none => simp [Nat.add_assoc]
  | some fs => exact Nat.add_right_comm _ _ _

theorem accounts_ofOutcomes (site : String) (v : Volume) (senders : Request.Senders) (root : Option Path)
    (paths : List Path) :
    Accounts v senders root paths (ofOutcomes site (paths.map (outcomeOf v senders root))) := by
  obtain ⟨unanalyzable, findings⟩ := surface_eq site v senders root paths
  refine ⟨?_, findings, ?_⟩
  · have counted := foldl_counts (fun r : RequestSurface => r.analyzed + r.unanalyzable.length) add_tally
    rw [ofOutcomes, counted, List.length_map]
    exact Nat.zero_add _
  · simpa only [silent_eq] using unanalyzable

theorem joins_ofOutcomes (site : String) (outcomes₁ outcomes₂ : List Outcome) :
    Joins (ofOutcomes site (outcomes₁ ++ outcomes₂)) (ofOutcomes site outcomes₁) (ofOutcomes site outcomes₂) := by
  simp only [ofOutcomes, foldl_add]
  constructor
  · simp
  · simp
  · simp

theorem settled_analyze {v : Volume} (senders : Request.Senders) (site : String) {root : Option Path}
    {paths : List Path} (regular : ∀ p ∈ paths, Source.Regular v root p) :
    Settled (analyze senders site root paths · ·) v (.ok (ofOutcomes site (paths.map (outcomeOf v senders root)))) := by
  refine settled_of_quiet (quiet_analyze senders site root paths) ?_
  rw [mapM_eq_ok fun p found => outcomeIn_eq (regular p found)]
  rfl

theorem readable_of_irregular {v : Volume} {root : Option Path} {p : Path} {f : Failure}
    (failed : Source.readIn v p root = .error f) (unforeseen : f.isForeseen = false) : readable v root p = .error f := by
  rw [readable, failed]
  cases f with
  | unreadable message => cases unforeseen
  | _ => rfl

theorem outcomeIn_of_irregular {v : Volume} {senders : Request.Senders} {root : Option Path} {p : Path} {f : Failure}
    (failed : readable v root p = .error f) : outcomeIn v senders root p = .error f := by
  rw [outcomeIn, failed]
  rfl

end RequestSurface

namespace PatternScan

def recordsIn (v : Volume) (radius : Int) (ds : List Detector) (root : Option Path) (p : Path) : List Scan.Record :=
  match Source.readIn v p root with
  | .ok s => Scan.records radius s.displayName s.text ds
  | .error _ => []

structure Accounts (v : Volume) (radius : Int) (ds : List Detector) (root : Option Path) (paths : List Path)
    (r : PatternScan) : Prop where
  tally : r.scanned + r.unreadable.length = paths.length
  records : r.records = paths.flatMap (recordsIn v radius ds root)
  unreadable : r.unreadable = paths.filterMap (Source.lost v root)

structure Joins (r r₁ r₂ : PatternScan) : Prop where
  scanned : r.scanned = r₁.scanned + r₂.scanned
  records : r.records = r₁.records ++ r₂.records
  unreadable : r.unreadable = r₁.unreadable ++ r₂.unreadable

theorem add_tally (r : PatternScan) (o : Outcome) :
    (r.add o).scanned + (r.add o).unreadable.length = r.scanned + r.unreadable.length + 1 := by
  rw [add]
  cases o.records with
  | none => simp [Nat.add_assoc]
  | some rs => exact Nat.add_right_comm _ _ _

theorem foldl_scanned (r : PatternScan) (outcomes : List Outcome) :
    (outcomes.foldl add r).scanned = r.scanned + outcomes.countP fun o => o.records.isSome := by
  induction outcomes generalizing r with
  | nil => rfl
  | cons o outcomes ih =>
    rw [List.foldl_cons, ih, add]
    cases found : o.records with
    | none => simp [found]
    | some rs => simp [found, Nat.add_assoc, Nat.add_comm]

theorem accounts_ofOutcomes (site : String) (v : Volume) (radius : Int) (ds : List Detector) (root : Option Path)
    (paths : List Path) :
    Accounts v radius ds root paths (ofOutcomes site ds (paths.map (outcomeOf v radius ds root))) := by
  constructor
  · have counted := foldl_counts (fun r : PatternScan => r.scanned + r.unreadable.length) add_tally
    rw [ofOutcomes, counted, List.length_map]
    exact Nat.zero_add _
  · rw [ofOutcomes, (foldl_add _ _).2, List.nil_append, List.flatMap_map]
    congr 1
    funext p
    rw [outcomeOf, recordsIn]
    cases Source.readIn v p root <;> rfl
  · rw [ofOutcomes, (foldl_add _ _).1, List.nil_append, filterMap_outcomeOf]

theorem joins_ofOutcomes (site : String) (ds : List Detector) (outcomes₁ outcomes₂ : List Outcome) :
    Joins (ofOutcomes site ds (outcomes₁ ++ outcomes₂)) (ofOutcomes site ds outcomes₁)
      (ofOutcomes site ds outcomes₂) := by
  constructor
  · simp [ofOutcomes, foldl_scanned]
  · simp [ofOutcomes, (foldl_add _ _).2]
  · simp [ofOutcomes, (foldl_add _ _).1]

theorem settled_scan {v : Volume} (radius : Int) (ds : List Detector) (site : String) {root : Option Path}
    {paths : List Path} (regular : ∀ p ∈ paths, Source.Regular v root p) :
    Settled (scan radius ds site root paths · ·) v
      (.ok (ofOutcomes site ds (paths.map (outcomeOf v radius ds root)))) := by
  refine settled_of_quiet (quiet_scan radius ds site root paths) ?_
  rw [mapM_eq_ok fun p found => outcomeIn_eq (regular p found)]
  rfl

theorem outcomeIn_of_irregular {v : Volume} {radius : Int} {ds : List Detector} {root : Option Path} {p : Path}
    {f : Failure} (failed : RequestSurface.readable v root p = .error f) : outcomeIn v radius ds root p = .error f := by
  rw [outcomeIn, failed]
  rfl

end PatternScan

/-- Passes over files lose and mix nothing. If they can take every path, both reports account for all of them,
whoever works on which file at what time, and those of two lists of paths make up that of both. A file that can be
read and is not inside its language is listed by one pass, a file that cannot be read by both of them. A path that
they cannot take ends both, and in the same way. -/
theorem passes_add_up (v : Volume) (senders : Request.Senders) (radius : Int) (ds : List Detector) (site : String)
    (root : Option Path) (paths : List Path) :
    ((∀ p ∈ paths, Source.Regular v root p) →
      ∃ surface scan,
        Settled (RequestSurface.analyze senders site root paths · ·) v (.ok surface) ∧
        Settled (PatternScan.scan radius ds site root paths · ·) v (.ok scan) ∧
        surface.Accounts v senders root paths ∧ scan.Accounts v radius ds root paths ∧
        ∀ paths₁ paths₂, paths = paths₁ ++ paths₂ → ∃ surface₁ surface₂ scan₁ scan₂,
          Settled (RequestSurface.analyze senders site root paths₁ · ·) v (.ok surface₁) ∧
          Settled (RequestSurface.analyze senders site root paths₂ · ·) v (.ok surface₂) ∧
          Settled (PatternScan.scan radius ds site root paths₁ · ·) v (.ok scan₁) ∧
          Settled (PatternScan.scan radius ds site root paths₂ · ·) v (.ok scan₂) ∧
          surface.Joins surface₁ surface₂ ∧ scan.Joins scan₁ scan₂) ∧
    ((∃ p ∈ paths, ¬Source.Regular v root p) →
      ∃ f, f.isForeseen = false ∧ Settled (RequestSurface.analyze senders site root paths · ·) v (.error f) ∧
        Settled (PatternScan.scan radius ds site root paths · ·) v (.error f)) := by
  constructor
  · intro regular
    refine ⟨_, _, RequestSurface.settled_analyze senders site regular, PatternScan.settled_scan radius ds site regular,
      RequestSurface.accounts_ofOutcomes site v senders root paths,
      PatternScan.accounts_ofOutcomes site v radius ds root paths, ?_⟩
    rintro paths₁ paths₂ rfl
    have regular₁ : ∀ p ∈ paths₁, Source.Regular v root p := fun p found => regular p (List.mem_append_left _ found)
    have regular₂ : ∀ p ∈ paths₂, Source.Regular v root p := fun p found => regular p (List.mem_append_right _ found)
    refine ⟨_, _, _, _, RequestSurface.settled_analyze senders site regular₁,
      RequestSurface.settled_analyze senders site regular₂, PatternScan.settled_scan radius ds site regular₁,
      PatternScan.settled_scan radius ds site regular₂, ?_, ?_⟩
    · rw [List.map_append]
      exact RequestSurface.joins_ofOutcomes site _ _
    · rw [List.map_append]
      exact PatternScan.joins_ofOutcomes site ds _ _
  · rintro ⟨p, found, irregular⟩
    classical
    -- The first path that is not regular decides, since everything before it comes to something.
    obtain ⟨q, before, after, regular, irregular, rfl, _⟩ := List.exists_of_eraseP
      (p := fun p => decide (¬Source.Regular v root p)) found (by simpa using irregular)
    simp only [decide_not, Bool.not_eq_true', decide_eq_false_iff_not, Decidable.not_not] at regular irregular
    obtain ⟨f, failed, unforeseen⟩ := Source.readIn_of_irregular irregular
    have readable := RequestSurface.readable_of_irregular failed unforeseen
    refine ⟨f, unforeseen, settled_of_quiet (RequestSurface.quiet_analyze senders site root _) ?_,
      settled_of_quiet (PatternScan.quiet_scan radius ds site root _) ?_⟩
    · rw [mapM_append_error (fun p found => RequestSurface.outcomeIn_eq (regular p found))
        (RequestSurface.outcomeIn_of_irregular readable)]
      rfl
    · rw [mapM_append_error (fun p found => PatternScan.outcomeIn_eq (regular p found))
        (PatternScan.outcomeIn_of_irregular readable)]
      rfl

section Sample

open Analysis

def goneScript : Path := ⟨.relative, ["gone.js"]⟩

theorem regular_gone (script : String) : Source.Regular (sampleVolume script) (some sampleSource) goneScript where
  clean := by decide
  rooted := by
    rintro r place ⟨⟩ looped
    cases looped.symm.trans (locate_of_lookup (folder_sampleSource script))

theorem passes_over_gone : ∃ surface scan,
    Settled (RequestSurface.analyze .usual "x" (some sampleSource) [sampleScript, goneScript] · ·)
      (sampleVolume "f()") (.ok surface) ∧
    Settled (PatternScan.scan 100 [] "x" (some sampleSource) [sampleScript, goneScript] · ·)
      (sampleVolume "f()") (.ok scan) ∧
    surface.analyzed + surface.unanalyzable.length = 2 ∧ scan.scanned = 1 ∧ scan.unreadable = ["gone.js"] := by
  have regular : ∀ p ∈ [sampleScript, goneScript], Source.Regular (sampleVolume "f()") (some sampleSource) p := by
    have clean : sampleScript.names.all isNullFree = true := by decide
    intro p found
    rcases List.mem_cons.mp found with rfl | found
    · exact Source.regular_below clean
    · obtain rfl := List.mem_singleton.mp found
      exact regular_gone "f()"
  obtain ⟨surface, scan, analyzed, scanned, accounts, accounts', _⟩ :=
    (passes_add_up (sampleVolume "f()") .usual 100 [] "x" (some sampleSource) [sampleScript, goneScript]).1 regular
  have read := readIn_sample "f()" (by decide +kernel)
  have gone : Source.lost (sampleVolume "f()") (some sampleSource) goneScript = some "gone.js" := by
    have absent : (sampleVolume "f()").lookup true goneScript = .ok ⟨⟨0, [.plain "gone.js"]⟩, none⟩ := by
      rw [lookup_of_askable (by unfold Askable; decide)]
      exact walk_absent rfl (by decide) (by decide) rfl
    rw [Source.lost, Source.readIn_eq, absent]
    rfl
  have unreadable : scan.unreadable = ["gone.js"] := by
    rw [accounts'.unreadable, List.filterMap_cons, Source.lost, read]
    simp only [List.filterMap_cons, gone, List.filterMap_nil]
  refine ⟨surface, scan, analyzed, scanned, accounts.tally, ?_, unreadable⟩
  have tally := accounts'.tally
  rw [unreadable] at tally
  exact Nat.add_right_cancel tally

def loopVolume : Volume :=
  ⟨[(⟨0, [.plain "a.js"]⟩, .file ByteArray.empty), (⟨0, [.plain "loop"]⟩, .link ⟨.relative, ["loop"]⟩)], 0⟩

-- A null in a path, and a root that leads around forever with a file to be named.
theorem passes_ended :
    Settled (RequestSurface.analyze .usual "x" none [⟨.relative, ["a\x00.js"]⟩] · ·) .empty
      (.error (.badValue (Text.ofString "embedded null byte"))) ∧
    Settled (RequestSurface.analyze .usual "x" (some ⟨.relative, ["loop"]⟩) [⟨.relative, ["a.js"]⟩] · ·) loopVolume
      (.error (.linkLoop (Text.ofString "Symlink loop from 'loop'"))) := by
  constructor
  · exact settled_of_quiet (RequestSurface.quiet_analyze _ _ _ _) (by rfl)
  · have located : loopVolume.locate ⟨.relative, ["loop"]⟩ = .error (.linkLoop ⟨0, [.plain "loop"]⟩) :=
      locate_selfLink (by decide) (by decide) (by decide) rfl
    have found : loopVolume.lookup true ⟨.relative, ["a.js"]⟩ =
        .ok ⟨⟨0, [.plain "a.js"]⟩, some (.file ByteArray.empty)⟩ :=
      lookup_eq_ok_iff.mpr ⟨by unfold Askable; decide, rfl, _, .down rfl (by decide) (by decide) rfl rfl .here⟩
    have named : Source.nameFor loopVolume ⟨.relative, ["a.js"]⟩ (some ⟨.relative, ["loop"]⟩) =
        .error (.linkLoop (Text.ofString "Symlink loop from 'loop'")) := by
      rw [Source.nameFor, Source.placeOf?, locate_of_lookup found, Source.placeOf?, located]
      rfl
    have read : Source.readIn loopVolume ⟨.relative, ["a.js"]⟩ (some ⟨.relative, ["loop"]⟩) =
        .error (.linkLoop (Text.ofString "Symlink loop from 'loop'")) := by
      rw [Source.readIn_eq, found, named]
      rfl
    refine settled_of_quiet (RequestSurface.quiet_analyze _ _ _ _) ?_
    rw [List.mapM_cons, RequestSurface.outcomeIn_of_irregular (RequestSurface.readable_of_irregular read rfl)]
    rfl

end Sample

end SiteSurvey
