import SiteSurvey.Proofs.Survey.Passes
import SiteSurvey.Proofs.Survey.Whole
import SiteSurvey.Proofs.Volume.Resolve
import SiteSurvey.Proofs.Volume.Sayable

set_option autoImplicit false

namespace SiteSurvey

theorem mapM_eq_ok {ε α β : Type} {f : α → Except ε β} {g : α → β} {as : List α}
    (each : ∀ a ∈ as, f a = .ok (g a)) : as.mapM f = .ok (as.map g) := by
  induction as with
  | nil => rfl
  | cons a as ih =>
    rw [List.mapM_cons, each a List.mem_cons_self, ih fun b found => each b (List.mem_cons_of_mem _ found)]
    rfl

theorem mem_of_mapM_eq_ok {ε α β : Type} {f : α → Except ε β} {as : List α} {bs : List β} {b : β}
    (mapped : as.mapM f = .ok bs) (found : b ∈ bs) : ∃ a ∈ as, f a = .ok b := by
  induction as generalizing bs with
  | nil =>
    cases mapped
    cases found
  | cons a as ih =>
    rw [List.mapM_cons] at mapped
    cases first : f a with
    | error e =>
      rw [first] at mapped
      cases mapped
    | ok c =>
      cases others : as.mapM f with
      | error e =>
        rw [first, others] at mapped
        cases mapped
      | ok cs =>
        rw [first, others] at mapped
        cases mapped
        rcases List.mem_cons.mp found with rfl | later
        · exact ⟨a, List.mem_cons_self, first⟩
        · obtain ⟨a', inside, here⟩ := ih others later
          exact ⟨a', List.mem_cons_of_mem _ inside, here⟩

theorem mapM_eq_error {ε α β : Type} {f : α → Except ε β} {as : List α} (fails : ∃ a ∈ as, ∃ e, f a = .error e) :
    ∃ a ∈ as, ∃ e, f a = .error e ∧ as.mapM f = .error e := by
  induction as with
  | nil =>
    obtain ⟨_, inside, _⟩ := fails
    cases inside
  | cons a as ih =>
    cases first : f a with
    | error e =>
      refine ⟨a, List.mem_cons_self, e, first, ?_⟩
      rw [List.mapM_cons, first]
      rfl
    | ok b =>
      obtain ⟨c, inside, e, failed⟩ := fails
      rcases List.mem_cons.mp inside with rfl | later
      · cases first.symm.trans failed
      · obtain ⟨d, found, e', failed', whole⟩ := ih ⟨c, later, e, failed⟩
        refine ⟨d, List.mem_cons_of_mem _ found, e', failed', ?_⟩
        rw [List.mapM_cons, first, whole]
        rfl

theorem mapM_congr {ε α β : Type} {f g : α → Except ε β} {as : List α} (same : ∀ a ∈ as, f a = g a) :
    as.mapM f = as.mapM g := by
  induction as with
  | nil => rfl
  | cons a as ih =>
    rw [List.forall_mem_cons] at same
    rw [List.mapM_cons, List.mapM_cons, same.1, ih same.2]

theorem ok_or_error {ε α : Type} (r : Except ε α) : (∃ a, r = .ok a) ∨ ∃ e, r = .error e := by
  cases r with
  | ok a => exact .inl ⟨a, rfl⟩
  | error e => exact .inr ⟨e, rfl⟩

namespace Volume

/-- No name on the volume holds a null, and so no path that is made of them does. -/
def NullFree (v : Volume) : Prop :=
  ∀ e ∈ v.entries, ∀ n ∈ e.1.names, isNullFree n.text = true

end Volume

open Volume

namespace Source

variable {v : Volume} {root p : Path}

/-- What a search comes to: the scripts in order, unless one of the entries on the way has a path that is too long. -/
theorem search_cases (v : Volume) (root : Path) (place : Location) (suffixes : List String) :
    (∃ p ∈ overlong v root place suffixes, search v root place suffixes = .error (tooLong p)) ∨
      overlong v root place suffixes = [] ∧ search v root place suffixes =
        .ok (Path.sorted (below v root place suffixes)) := by
  unfold search
  split
  · next p _ first =>
    refine .inl ⟨p, ?_, rfl⟩
    rw [← List.mem_mergeSort, first]
    exact List.mem_cons_self
  · next none =>
    refine .inr ⟨?_, rfl⟩
    rw [← List.length_eq_zero_iff, ← List.length_mergeSort, none, List.length_nil]

theorem search_eq_ok {place : Location} {suffixes : List String} (near : overlong v root place suffixes = []) :
    search v root place suffixes = .ok (Path.sorted (below v root place suffixes)) := by
  rcases search_cases v root place suffixes with ⟨p, found, _⟩ | ⟨_, done⟩
  · rw [near] at found
    cases found
  · exact done

theorem collectIn_of_folder (extensions : List String) {place : Location} (there : Folder v root place) :
    collectIn v root extensions = search v root place (extensions.map Text.lowerString) := by
  have isFolder : v.isFolder root = .ok true := isFolder_eq_true_iff.mpr ⟨place, there⟩
  have found : v.find root = .ok { place, entry := some .folder } := by
    rw [find, there]
    rfl
  rw [collectIn, isFolder, found]
  rfl

theorem mem_below_of_collectIn {extensions : List String} {place : Location} {paths : List Path}
    (there : Folder v root place) (collected : collectIn v root extensions = .ok paths) (found : p ∈ paths) :
    p ∈ below v root place (extensions.map Text.lowerString) := by
  rw [collectIn_of_folder extensions there] at collected
  rcases search_cases v root place (extensions.map Text.lowerString) with ⟨_, _, failed⟩ | ⟨_, done⟩
  · cases failed.symm.trans collected
  · cases done.symm.trans collected
    exact Path.mem_sorted.mp found

theorem folder_of_collectIn {extensions : List String} {paths : List Path}
    (collected : collectIn v root extensions = .ok paths) : ∃ place, Folder v root place := by
  rw [collectIn] at collected
  cases answer : v.isFolder root with
  | error fault =>
    rw [answer] at collected
    cases collected
  | ok b =>
    cases b with
    | false =>
      rw [answer] at collected
      cases collected
    | true => exact isFolder_eq_true_iff.mp answer

theorem sought?_eq_some_iff {place : Location} {suffixes : List String} {d : Location × Entry} :
    sought? root place suffixes d = some p ↔
      ∃ names, d.1.below? place = some names ∧ d.2.isFolder = false ∧
        p = { root with names := root.names ++ names.map Name.text } ∧
        suffixes.contains (Text.lowerString p.suffix) = true := by
  unfold sought?
  constructor
  · intro found
    split at found
    · cases found
    · next names under =>
      dsimp only at found
      split at found
      · next fits =>
        cases found
        rw [Bool.and_eq_true, Bool.not_eq_true'] at fits
        exact ⟨names, under, fits.1, rfl, fits.2⟩
      · cases found
  · rintro ⟨names, under, solid, rfl, fits⟩
    simp only [under, solid, fits, Bool.not_false, Bool.and_self, if_true]

theorem sought?_folder (root : Path) (place : Location) (suffixes : List String) (l : Location) :
    sought? root place suffixes (l, .folder) = none := by
  unfold sought?
  split <;> rfl

theorem mem_below {place : Location} {suffixes : List String} (found : p ∈ below v root place suffixes) :
    ∃ e ∈ v.entries, ∃ names, e.1.below? place = some names ∧ e.2.isFile = true ∧
      p = { root with names := root.names ++ names.map Name.text } ∧
      suffixes.contains (Text.lowerString p.suffix) = true := by
  obtain ⟨d, entry, made⟩ := List.mem_filterMap.mp found
  obtain ⟨sought, kept⟩ := Option.filter_eq_some_iff.mp made
  rw [Bool.and_eq_true] at kept
  obtain ⟨names, under, _, shape, fits⟩ := sought?_eq_some_iff.mp sought
  exact ⟨d, entry, names, under, kept.1, shape, fits⟩

theorem mem_of_below? {l base : Location} {names : List Name} (under : l.below? base = some names) :
    ∀ n ∈ names, n ∈ l.names := by
  unfold Location.below? at under
  split at under
  · cases under
    exact fun n found => List.mem_of_mem_drop found
  · cases under

theorem clean_of_mem_below {place : Location} {suffixes : List String} (nullFree : NullFree v)
    (there : Folder v root place) (found : p ∈ below v root place suffixes) :
    p.names.all isNullFree = true := by
  obtain ⟨e, entry, names, under, _, rfl, _⟩ := mem_below found
  rw [List.all_append, Bool.and_eq_true]
  refine ⟨(askable_of_lookup there).clean, ?_⟩
  rw [List.all_map, List.all_eq_true]
  intro n inside
  exact nullFree e entry n (mem_of_below? under n inside)

def readEntry (p : Path) (name : Except Failure String) : Option Entry → Except Failure Source
  | none => .error (unreadable p (.at_ .missing p.toString))
  | some e =>
      if maxSize < e.bytes.size then .error (.unreadable ("File too large (max 10MB): " ++ p.toString))
      else if e.isFolder then .error (unreadable p (.at_ .isFolder p.toString))
      else name.map fun displayName => { path := p, text := unifyLines (Utf8.decodeLossy e.bytes), displayName }

theorem readEntry_file {bytes : ByteArray} (small : bytes.size ≤ maxSize) (p : Path) (displayName : String) :
    readEntry p (.ok displayName) (some (.file bytes)) =
      .ok { path := p, text := unifyLines (Utf8.decodeLossy bytes), displayName } :=
  if_neg (Nat.not_lt.mpr small)

theorem readIn_eq (v : Volume) (p : Path) (root : Option Path) :
    readIn v p root =
      match v.lookup true p with
      | .error fault => .error (unreadable p (.at_ fault p.toString))
      | .ok s => readEntry p (nameFor v p root) s.entry := by
  cases found : v.lookup true p with
  | error fault =>
    rw [readIn, find, found]
    rfl
  | ok s =>
    obtain ⟨place, entry⟩ := s
    cases entry with
    | none =>
      rw [readIn, find, found]
      rfl
    | some e =>
      have first : v.find p = .ok ⟨place, some e⟩ := by
        rw [find, found]
        rfl
      rw [readIn, first]
      simp only [readEntry]
      change (if maxSize < e.bytes.size then _ else _) = _
      split
      · rfl
      · rw [Volume.read, found]
        cases e <;> rfl

theorem unreadable_eq {fault : VolumeFault} (other : fault ≠ .nullByte) (p : Path) :
    ∃ message, unreadable p (.at_ fault p.toString) = .unreadable message :=
  ⟨_, if_neg other⟩

/-- Reading without a root either succeeds or says that the file is unreadable. -/
theorem readIn_none_cases (clean : p.names.all isNullFree = true) :
    (∃ s, readIn v p none = .ok s) ∨ ∃ message, readIn v p none = .error (.unreadable message) := by
  -- A null in the path is the one fault that is not wrapped.
  have faulty : ∀ fault : VolumeFault, fault ≠ .nullByte → ∀ r : Except Failure Source,
      r = .error (unreadable p (.at_ fault p.toString)) →
        (∃ s, r = .ok s) ∨ ∃ message, r = .error (.unreadable message) := by
    intro fault other r failed
    obtain ⟨message, same⟩ := unreadable_eq other p
    exact .inr ⟨message, by rw [failed, same]⟩
  rw [readIn_eq]
  cases found : v.lookup true p with
  | error fault => exact faulty fault (fun same => lookup_ne_nullByte clean (by rw [found, same])) _ rfl
  | ok s =>
    obtain ⟨place, entry⟩ := s
    cases entry with
    | none => exact faulty .missing (by decide) _ rfl
    | some e =>
      by_cases large : maxSize < e.bytes.size
      · exact .inr ⟨_, by simp only [readEntry, if_pos large]; rfl⟩
      · by_cases folder : e.isFolder = true
        · exact faulty .isFolder (by decide) _ (by simp only [readEntry, if_neg large, if_pos folder])
        · exact .inl ⟨_, by simp only [readEntry, if_neg large, if_neg folder]; rfl⟩

theorem lookup_of_readIn {root : Option Path} {s : Source} (read : readIn v p root = .ok s) :
    ∃ spot, v.lookup true p = .ok spot := by
  rw [readIn_eq] at read
  cases found : v.lookup true p with
  | error fault =>
    rw [found] at read
    cases read
  | ok spot => exact ⟨spot, rfl⟩

theorem readIn_root (v : Volume) (p : Path) (root : Option Path) :
    readIn v p root = do
      let s ← readIn v p none
      let displayName ← nameFor v p root
      return { s with displayName } := by
  rw [readIn_eq, readIn_eq]
  cases v.lookup true p with
  | error fault => rfl
  | ok s =>
    obtain ⟨place, entry⟩ := s
    cases entry with
    | none => rfl
    | some e =>
      simp only [readEntry]
      by_cases large : maxSize < e.bytes.size
      · rw [if_pos large, if_pos large]
        rfl
      · by_cases folder : e.isFolder = true
        · rw [if_neg large, if_neg large, if_pos folder, if_pos folder]
          rfl
        · rw [if_neg large, if_neg large, if_neg folder, if_neg folder]
          rcases nameFor v p root with f | name <;> rfl

/-- A path that a pass over files can take, whatever stands there: it holds no null, and if the root leads around
forever, then the file cannot be read. -/
structure Regular (v : Volume) (root : Option Path) (p : Path) : Prop where
  clean : p.names.all isNullFree = true
  rooted : ∀ r place, root = some r → v.locate r = .error (.linkLoop place) →
    ∃ message, readIn v p none = .error (.unreadable message)

theorem nameFor_of_locate {place base : Location} (here : v.locate p = .ok place) (there : v.locate root = .ok base) :
    nameFor v p (some root) = .ok (nameFrom p base place) := by
  rw [nameFor, placeOf?, here, placeOf?, there]
  rfl

theorem nameFor_eq_ok {root : Option Path} {spot : Spot} (found : v.lookup true p = .ok spot)
    (straight : ∀ r place, root = some r → v.locate r ≠ .error (.linkLoop place)) :
    ∃ name, nameFor v p root = .ok name := by
  cases root with
  | none => exact ⟨_, rfl⟩
  | some r =>
    have here := locate_of_lookup found
    rcases there : v.locate r with unplaced | base
    · cases unplaced with
      | nullByte =>
        rw [nameFor, placeOf?, here, placeOf?, there]
        exact ⟨_, rfl⟩
      | linkLoop place => exact absurd there (straight r place rfl)
    · exact ⟨_, nameFor_of_locate here there⟩

/-- Reading either succeeds or says that the file is unreadable, which does not end a survey. -/
theorem Regular.readIn_cases {root : Option Path} (regular : Regular v root p) :
    (∃ s, readIn v p root = .ok s) ∨ ∃ message, readIn v p root = .error (.unreadable message) := by
  rw [readIn_root]
  rcases readIn_none_cases regular.clean with ⟨s, read⟩ | ⟨message, failed⟩
  · obtain ⟨spot, found⟩ := lookup_of_readIn read
    have straight : ∀ r place, root = some r → v.locate r ≠ .error (.linkLoop place) := by
      intro r place here looped
      obtain ⟨message, failed⟩ := regular.rooted r place here looped
      cases read.symm.trans failed
    obtain ⟨name, named⟩ := nameFor_eq_ok found straight
    rw [read, named]
    exact .inl ⟨_, rfl⟩
  · rw [failed]
    exact .inr ⟨message, rfl⟩

theorem regular_below {texts : List String}
    (clean : ({ root with names := root.names ++ texts } : Path).names.all isNullFree = true) :
    Regular v (some root) { root with names := root.names ++ texts } where
  clean := clean
  rooted := by
    rintro r place ⟨⟩ looped
    rcases readIn_none_cases clean with ⟨s, read⟩ | failed
    · obtain ⟨spot, found⟩ := lookup_of_readIn read
      obtain ⟨base, located⟩ := locate_above found
      cases looped.symm.trans located
    · exact failed

theorem regular_of_mem_below {u : Volume} {place : Location} {suffixes : List String} (nullFree : NullFree u)
    (there : Folder u root place) (found : p ∈ below u root place suffixes) : Regular v (some root) p := by
  have clean := clean_of_mem_below nullFree there found
  obtain ⟨_, _, _, _, _, rfl, _⟩ := mem_below found
  exact regular_below clean

/-- The name under which a file that cannot be read is listed. -/
def lost (v : Volume) (root : Option Path) (p : Path) : Option String :=
  match readIn v p root with
  | .ok _ => none
  | .error _ => some p.toString

end Source

namespace RequestSurface

/-- The name under which a file is listed that cannot be read or is not inside its language. -/
def silent (v : Volume) (senders : Request.Senders) (root : Option Path) (p : Path) : Option String :=
  match Source.readIn v p root with
  | .ok s => if (findingsOf senders s).isNone then some s.displayName else none
  | .error _ => some p.toString

/-- The findings of a file, and none if it is silent. -/
def findingsIn (v : Volume) (senders : Request.Senders) (root : Option Path) (p : Path) :
    List Request.Finding :=
  match Source.readIn v p root with
  | .ok s => (findingsOf senders s).getD []
  | .error _ => []

def outcomeOf (v : Volume) (senders : Request.Senders) (root : Option Path) (p : Path) : Outcome :=
  match Source.readIn v p root with
  | .ok s => { file := s.displayName, findings := findingsOf senders s }
  | .error _ => { file := p.toString, findings := none }

variable {v : Volume} {senders : Request.Senders} {root : Option Path} {p : Path}

theorem readable_eq (regular : Source.Regular v root p) :
    readable v root p = .ok (Source.readIn v p root).toOption := by
  rw [readable]
  rcases regular.readIn_cases with ⟨s, read⟩ | ⟨message, failed⟩
  · rw [read]
    rfl
  · rw [failed]
    rfl

theorem outcomeIn_eq (regular : Source.Regular v root p) :
    outcomeIn v senders root p = .ok (outcomeOf v senders root p) := by
  rw [outcomeIn, readable_eq regular, outcomeOf]
  cases Source.readIn v p root <;> rfl

theorem foldl_add (r : RequestSurface) (outcomes : List Outcome) :
    outcomes.foldl add r =
      { site := r.site
        analyzed := r.analyzed + outcomes.countP fun o => o.findings.isSome
        unanalyzable := r.unanalyzable ++ outcomes.filterMap fun o =>
          if o.findings.isNone then some o.file else none
        findings := r.findings ++ outcomes.flatMap fun o => o.findings.getD [] } := by
  induction outcomes generalizing r with
  | nil => simp
  | cons o outcomes ih =>
    rw [List.foldl_cons, ih, add]
    cases found : o.findings with
    | none => simp [found]
    | some fs =>
      simp only [found, List.countP_cons, Option.isSome_some, if_true, List.filterMap_cons,
        List.flatMap_cons, Option.getD_some, List.append_assoc, Nat.add_assoc, Nat.add_comm 1]
      rfl

/-- Files that cannot be read or parsed are listed, and take nothing away from the others. -/
theorem surface_eq (site : String) (v : Volume) (senders : Request.Senders) (root : Option Path)
    (paths : List Path) :
    (ofOutcomes site (paths.map (outcomeOf v senders root))).unanalyzable =
        paths.filterMap (silent v senders root) ∧
      (ofOutcomes site (paths.map (outcomeOf v senders root))).findings =
        paths.flatMap (findingsIn v senders root) := by
  rw [ofOutcomes, foldl_add]
  simp only [List.nil_append, List.filterMap_map, List.flatMap_map]
  constructor
  · congr 1
    funext p
    obtain ⟨s, read⟩ | ⟨f, read⟩ := ok_or_error (Source.readIn v p root) <;> simp [outcomeOf, silent, read]
  · congr 1
    funext p
    simp only [outcomeOf, findingsIn]
    cases Source.readIn v p root <;> rfl

end RequestSurface

namespace PatternScan

def outcomeOf (v : Volume) (radius : Int) (ds : List Detector) (root : Option Path) (p : Path) : Outcome :=
  match Source.readIn v p root with
  | .ok s => { file := s.displayName, records := some (Scan.records radius s.displayName s.text ds) }
  | .error _ => { file := p.toString, records := none }

theorem outcomeIn_eq {v : Volume} {radius : Int} {ds : List Detector} {root : Option Path} {p : Path}
    (regular : Source.Regular v root p) :
    outcomeIn v radius ds root p = .ok (outcomeOf v radius ds root p) := by
  rw [outcomeIn, RequestSurface.readable_eq regular, outcomeOf]
  cases Source.readIn v p root <;> rfl

theorem foldl_add (r : PatternScan) (outcomes : List Outcome) :
    (outcomes.foldl add r).unreadable =
        r.unreadable ++ outcomes.filterMap (fun o => if o.records.isNone then some o.file else none) ∧
      (outcomes.foldl add r).records = r.records ++ outcomes.flatMap fun o => o.records.getD [] := by
  induction outcomes generalizing r with
  | nil => simp
  | cons o outcomes ih =>
    rw [List.foldl_cons, (ih _).1, (ih _).2, add]
    cases found : o.records with
    | none => simp [found]
    | some rs => simp [found]

theorem filterMap_outcomeOf (v : Volume) (radius : Int) (ds : List Detector) (root : Option Path)
    (paths : List Path) :
    (paths.map (outcomeOf v radius ds root)).filterMap
        (fun o => if o.records.isNone then some o.file else none) = paths.filterMap (Source.lost v root) := by
  rw [List.filterMap_map]
  congr 1
  funext p
  obtain ⟨s, read⟩ | ⟨f, read⟩ := ok_or_error (Source.readIn v p root) <;> simp [outcomeOf, Source.lost, read]

theorem isWhole_of_outcomeIn {v : Volume} {radius : Int} {ds : List Detector} {root : Option Path} {p : Path}
    {o : Outcome} (seen : outcomeIn v radius ds root p = .ok o) : ∀ r ∈ o.records.getD [], r.IsWhole := by
  rw [outcomeIn] at seen
  cases read : RequestSurface.readable v root p with
  | error f =>
    rw [read] at seen
    cases seen
  | ok s =>
    rw [read] at seen
    cases s with
    | none =>
      cases seen
      simp
    | some s =>
      cases seen
      exact fun r found => Scan.isWhole_of_mem_records found

end PatternScan

/-- Whatever the files and the detectors are, records hold whole characters only. -/
theorem Analysis.isWhole_of_scanIn {v : Volume} {site : String} {paths : List Path} {c : Config}
    {root : Option Path} {scan : PatternScan} (seen : scanIn v site paths c root = .ok scan) :
    ∀ r ∈ scan.records, r.IsWhole := by
  obtain ⟨set, outcomes, _, mapped, rfl⟩ := scanIn_eq_ok seen
  intro r found
  change r ∈ (PatternScan.ofOutcomes site set.detectors outcomes).records at found
  rw [PatternScan.ofOutcomes, (PatternScan.foldl_add _ outcomes).2, List.nil_append] at found
  obtain ⟨o, inside, record⟩ := List.mem_flatMap.mp found
  obtain ⟨p, _, here⟩ := mem_of_mapM_eq_ok mapped inside
  exact PatternScan.isWhole_of_outcomeIn here r record

theorem DetectorSet.loadIn_builtin (v : Volume) {folders : List DetectorFolder}
    (builtin : ∀ d ∈ folders, d = .builtin) : ∃ set, loadIn v folders = .ok set := by
  have from_ : ∀ s, ∃ set, folders.foldlM (folderIn v) s = .ok set := by
    induction folders with
    | nil => exact fun s => ⟨s, rfl⟩
    | cons d folders ih =>
      intro s
      obtain ⟨set, loaded⟩ := ih (fun d found => builtin d (List.mem_cons_of_mem _ found)) s.insertBuiltin
      refine ⟨set, ?_⟩
      rw [List.foldlM_cons, builtin d List.mem_cons_self]
      exact loaded
  exact from_ _

namespace Analysis

variable {v : Volume} {c : Config} {paths : List Path}

theorem surfaceIn_eq (site : String) (c : Config) (root : Option Path)
    (regular : ∀ p ∈ paths, Source.Regular v root p) :
    surfaceIn v site paths c root =
      .ok (.ofOutcomes site (paths.map (RequestSurface.outcomeOf v c.senders root))) := by
  have mapped : paths.mapM (RequestSurface.outcomeIn v c.senders root) =
      .ok (paths.map (RequestSurface.outcomeOf v c.senders root)) :=
    mapM_eq_ok fun p found => RequestSurface.outcomeIn_eq (regular p found)
  rw [surfaceIn, mapped]
  rfl

theorem scanIn_of_outcomes (site : String) {root : Option Path} {set : DetectorSet}
    {outcomes : List PatternScan.Outcome} (loaded : DetectorSet.loadIn v c.detectorFolders = .ok set)
    (mapped : paths.mapM (PatternScan.outcomeIn v c.radius set.detectors root) = .ok outcomes) :
    ∃ scan, scanIn v site paths c root = .ok scan ∧
      scan.unreadable = outcomes.filterMap (fun o => if o.records.isNone then some o.file else none) ∧
      scan.records = outcomes.flatMap fun o => o.records.getD [] := by
  obtain ⟨unreadable, records⟩ := PatternScan.foldl_add
    { site, detectors := set.detectors.map (·.name), rejected := [], scanned := 0, unreadable := [], records := [] }
    outcomes
  rw [scanIn, loaded]
  simp only [bind, Except.bind, mapped]
  exact ⟨_, rfl, unreadable, records⟩

theorem scanIn_builtin (site : String) (root : Option Path) (builtin : ∀ d ∈ c.detectorFolders, d = .builtin)
    (regular : ∀ p ∈ paths, Source.Regular v root p) :
    ∃ scan, scanIn v site paths c root = .ok scan ∧ scan.unreadable = paths.filterMap (Source.lost v root) := by
  obtain ⟨set, loaded⟩ := DetectorSet.loadIn_builtin v builtin
  have mapped : paths.mapM (PatternScan.outcomeIn v c.radius set.detectors root) =
      .ok (paths.map (PatternScan.outcomeOf v c.radius set.detectors root)) :=
    mapM_eq_ok fun p found => PatternScan.outcomeIn_eq (regular p found)
  obtain ⟨scan, seen, unreadable, _⟩ := scanIn_of_outcomes site loaded mapped
  rw [PatternScan.filterMap_outcomeOf] at unreadable
  exact ⟨scan, seen, unreadable⟩

end Analysis

end SiteSurvey
