import SiteSurvey.Proofs.Detector.Accepted

set_option autoImplicit false

namespace SiteSurvey

open Volume

namespace DetectorSet

section Listing

variable {v : Volume} {base : Location}

def namesIn (v : Volume) (base : Location) : List String :=
  (v.entries.filterMap (offered base)).mergeSort fun a b => a ≤ b

theorem pairwise_namesIn (v : Volume) (base : Location) : (namesIn v base).Pairwise (· ≤ ·) := by
  have sorted : (namesIn v base).Pairwise fun a b => decide (a ≤ b) = true :=
    List.pairwise_mergeSort
      (fun a b c first second => by simpa using String.le_trans (by simpa using first) (by simpa using second))
      (fun a b => by simpa using String.le_total a b) _
  exact sorted.imp fun before => by simpa using before

theorem offered_eq_some {l : Location} {e : Entry} {name : String} :
    offered base (l, e) = some name ↔ isOffered name = true ∧ l = base.child (.plain name) := by
  constructor
  · intro made
    unfold offered at made
    split at made
    · next n under =>
      split at made
      · next fits =>
        obtain rfl : n.text = name := Option.some.inj made
        refine ⟨fits, ?_⟩
        have whole : l = base.child n := below?_eq_some under
        cases n with
        | plain text => exact whole
        | temporary stem serial =>
          have last : (Name.temporary stem serial).text.toList.getLast? = some 'p' :=
            getLast?_append_of_some (by decide)
          rw [isOffered, endsWith_py_eq_false (by simp [last])] at fits
          cases fits
      · cases made
    · cases made
  · rintro ⟨fits, rfl⟩
    have under : (base.child (.plain name)).below? base = some [.plain name] := by
      simp [Location.below?, Location.child]
    simp only [offered, under, Name.text, fits, if_true]

theorem mem_namesIn {name : String} :
    name ∈ namesIn v base ↔ isOffered name = true ∧ ∃ e, (base.child (.plain name), e) ∈ v.entries := by
  rw [namesIn, List.mem_mergeSort, List.mem_filterMap]
  constructor
  · rintro ⟨⟨l, e⟩, found, made⟩
    obtain ⟨fits, rfl⟩ := offered_eq_some.mp made
    exact ⟨fits, e, found⟩
  · rintro ⟨fits, e, found⟩
    exact ⟨(base.child (.plain name), e), found, offered_eq_some.mpr ⟨fits, rfl⟩⟩

theorem namesIn_erase (v : Volume) (base l : Location) :
    namesIn (v.erase l) base = (namesIn v base).filter fun name => base.child (.plain name) ≠ l := by
  have listed : (v.erase l).entries.filterMap (offered base) =
      (v.entries.filterMap (offered base)).filter fun name => base.child (.plain name) ≠ l := by
    rw [erase, List.filterMap_filter, List.filter_filterMap]
    congr 1
    funext d
    obtain ⟨k, e⟩ := d
    cases made : offered base (k, e) with
    | none => simp
    | some name =>
      obtain ⟨_, rfl⟩ := offered_eq_some.mp made
      by_cases there : base.child (.plain name) = l <;> simp [there, Option.filter]
  -- Both sides are in order, so it is enough that they have the same names.
  refine List.Perm.eq_of_pairwise (fun a b _ _ => String.le_antisymm) (pairwise_namesIn _ _)
    ((pairwise_namesIn v base).sublist List.filter_sublist) ?_
  rw [namesIn, namesIn]
  refine (List.mergeSort_perm _ _).trans ?_
  rw [listed]
  exact ((List.mergeSort_perm _ _).filter _).symm

theorem filesIn_eq {p : Path} (folder : Folder v p base) : filesIn v p = (namesIn v base).map fun name => p / name := by
  rw [filesIn_of_folder folder, candidates_eq]
  rfl

end Listing

section Kinds

/-- The end of a walk at which there is neither a folder nor a plugin with a detector. -/
def Useless (r : Except VolumeFault Spot) : Prop :=
  ∀ s, r = .ok s → s.entry ≠ some .folder ∧
    ∀ plugin, s.entry = some (.plugin plugin) → ∀ fileName d, ¬plugin.Offers fileName d

/-- The end of a walk that is useless and does not keep anything else from being loaded. -/
def Harmless (r : Except VolumeFault Spot) : Prop :=
  Useless r ∧ r ≠ .error .nameTooLong ∧
    ∀ s, r = .ok s → ∀ plugin, s.entry = some (.plugin plugin) → ∀ fileName, ¬plugin.Breaks fileName

theorem barren_useless : Barren Useless where
  absent fault _ s found := by cases found
  noFolder s useless := (useless s rfl).1

theorem barren_harmless : Barren Harmless where
  absent fault absent := by
    refine ⟨barren_useless.absent fault absent, ?_, fun s found => by cases found⟩
    intro same
    cases same
    cases absent
  noFolder s harmless := barren_useless.noFolder s harmless.1

variable {v : Volume} {place : Location} {name : String}

theorem useless_of_harmless (ends : EndsIn Harmless v place name) : EndsIn Useless v place name where
  entry := ends.entry.1
  target links target link := (ends.target links target link).1

end Kinds

section Erasure

variable {dud : Except VolumeFault Spot → Prop} {v : Volume} {place : Location} {name : String}

theorem loadIn_erase (barren : Barren dud) (ends : EndsIn dud v place name) (file : Path) :
    Detector.loadIn (v.erase (place.child (.plain name))) file = Detector.loadIn v file ∨
      dud (v.lookup true file) ∧
        ∃ reason, Detector.loadIn (v.erase (place.child (.plain name))) file = .error (.detector file.name reason) := by
  rcases lookup_erase barren ends file with same | ⟨bad, absent⟩
  · left
    rw [Detector.loadIn, Detector.loadIn, same]
  · refine .inr ⟨bad, Detector.loadIn_of_not_serves ?_⟩
    rintro plugin ⟨there, found⟩
    rw [found] at absent
    exact not_isAbsent_some absent

theorem not_serves_of_absent {p : Path} {plugin : Detector.Plugin} (folder : Folder v p place)
    (absent : v.get? (place.child (.plain name)) = none) (offered : isOffered name = true)
    (noSlash : '/' ∉ name.toList) : ¬Detector.Serves v (p / name) plugin := by
  obtain ⟨start, rfl⟩ := Path.endsWith_py_iff.mp (Bool.and_eq_true_iff.mp offered).1
  have single : Path.isName (start ++ ".py").toList = true := by
    cases shape : start.toList <;> simp [Path.isName, shape]
  rw [Path.div_eq_child (Path.ofString_eq noSlash single)]
  rintro ⟨there, found⟩
  -- The way to the file is the way to the folder and one step more, and every kind of last step needs an entry.
  obtain ⟨_, entry, left, leads⟩ := lookup_eq_ok_iff.mp found
  obtain ⟨_, _, _, way⟩ := lookup_eq_ok_iff.mp folder
  obtain ⟨middle, r, first, last⟩ := (leads_append (List.cons_ne_nil _ _)).mp leads
  obtain rfl := first.unique way
  generalize own : start ++ ".py" = name at *
  cases last with
  | up =>
    rw [isOffered, endsWith_py_eq_false (by decide)] at offered
    cases offered
  | stop => cases entry.trans absent
  | follow _ _ _ link =>
    rw [absent] at link
    cases link
  | down _ _ _ present =>
    rw [absent] at present
    cases present

theorem loadIn_erased {p : Path} (folder : Folder (v.erase (place.child (.plain name))) p place)
    (offered : isOffered name = true) (noSlash : '/' ∉ name.toList) :
    ∃ reason, Detector.loadIn (v.erase (place.child (.plain name))) (p / name) =
      .error (.detector (p / name).name reason) := by
  have gone := get?_erase_self (v := v) (l := place.child (.plain name)) (by simp [Location.child])
  exact Detector.loadIn_of_not_serves fun plugin => not_serves_of_absent folder gone offered noSlash

theorem mem_filesIn_erase {p file : Path} (barren : Barren dud) (ends : EndsIn dud v place name)
    (found : file ∈ filesIn (v.erase (place.child (.plain name))) p) : file ∈ filesIn v p := by
  obtain ⟨_, base, _, folder, _⟩ := mem_filesIn found
  rw [filesIn_eq folder, namesIn_erase] at found
  rw [filesIn_eq ((folder_erase_iff barren ends).mp folder)]
  exact List.map_subset _ (List.filter_sublist.subset) found

theorem mem_filesIn_of_erase {p file : Path} (barren : Barren dud) (ends : EndsIn dud v place name)
    (found : file ∈ filesIn v p) :
    file ∈ filesIn (v.erase (place.child (.plain name))) p ∨
      Folder (v.erase (place.child (.plain name))) p place ∧ isOffered name = true ∧ file = p / name := by
  obtain ⟨_, base, _, folder, _⟩ := mem_filesIn found
  have folder' := (folder_erase_iff barren ends).mpr folder
  rw [filesIn_eq folder] at found
  obtain ⟨own, listed, rfl⟩ := List.mem_map.mp found
  by_cases there : base.child (.plain own) = place.child (.plain name)
  · obtain ⟨rfl, rfl⟩ := child_inj there
    exact .inr ⟨folder', (mem_namesIn.mp listed).1, rfl⟩
  · left
    rw [filesIn_eq folder', namesIn_erase]
    exact List.mem_map.mpr ⟨own, List.mem_filter.mpr ⟨listed, by simpa using there⟩, rfl⟩

theorem toOption_loadIn_erase {p file : Path} (ends : EndsIn Useless v place name) (found : file ∈ filesIn v p) :
    (Detector.loadIn (v.erase (place.child (.plain name))) file).toOption = (Detector.loadIn v file).toOption := by
  rcases loadIn_erase barren_useless ends file with same | ⟨useless, reason, failed⟩
  · rw [same]
  · rw [failed]
    cases loaded : Detector.loadIn v file with
    | error f => rfl
    | ok d =>
      obtain ⟨plugin, ⟨there, stands⟩, offers⟩ :=
        (Detector.loadIn_eq_ok_iff (endsWith_of_mem_filesIn found).1).mp loaded
      exact absurd offers ((useless _ stands).2 plugin rfl _ _)

theorem usable_erase (ends : EndsIn Useless v place name) (noSlash : '/' ∉ name.toList) (folder : DetectorFolder) :
    usable (trialsIn (v.erase (place.child (.plain name))) folder) = usable (trialsIn v folder) := by
  cases folder with
  | builtin => rfl
  | folder p =>
    by_cases there : ∃ base, Folder v p base
    · obtain ⟨base, there⟩ := there
      have there' := (folder_erase_iff barren_useless ends).mpr there
      simp only [usable, trialsIn, filesIn_eq there, filesIn_eq there', namesIn_erase, List.filterMap_map,
        List.filterMap_filter]
      refine List.filterMap_congr fun own listed => ?_
      have same := toOption_loadIn_erase ends (p := p) (by
        rw [filesIn_eq there]
        exact List.mem_map.mpr ⟨own, listed, rfl⟩)
      simp only [Function.comp_apply, trialOf, ← same]
      -- A name that is listed only before has no plugin behind it afterwards.
      split
      · rfl
      · next gone =>
        obtain ⟨rfl, rfl⟩ := child_inj (by simpa using gone)
        obtain ⟨reason, failed⟩ := loadIn_erased there' (mem_namesIn.mp listed).1 noSlash
        rw [failed]
        rfl
    · have none := filesIn_of_not_folder (not_exists.mp there)
      have none' := filesIn_of_not_folder fun base folder =>
        there ⟨base, (folder_erase_iff barren_useless ends).mp folder⟩
      rw [trialsIn, trialsIn, none, none']
      rfl

theorem answers_erase {folder : DetectorFolder} (barren : Barren dud) (ends : EndsIn dud v place name)
    (answers : Answers v folder) : Answers (v.erase (place.child (.plain name))) folder := by
  cases folder with
  | builtin => trivial
  | folder p =>
    rcases lookup_erase barren ends p with same | ⟨_, absent⟩
    · rw [Answers, same]
      exact answers
    · intro long
      rw [long] at absent
      rcases absent with missing | ⟨_, empty⟩
      · cases missing
      · cases empty

theorem answers_of_erase {folder : DetectorFolder} (ends : EndsIn Harmless v place name)
    (answers : Answers (v.erase (place.child (.plain name))) folder) : Answers v folder := by
  cases folder with
  | builtin => trivial
  | folder p =>
    rcases lookup_erase barren_harmless ends p with same | ⟨harmless, _⟩
    · rw [Answers, ← same]
      exact answers
    · exact harmless.2.1

theorem not_breaks_trialOf {file : Path} {key message : Text}
    (failed : Detector.loadIn v file = .error (.detector key message)) : ¬(trialOf v file).Breaks :=
  Trial.not_breaks_of_rejection failed

theorem breaks_erase {file : Path} (barren : Barren dud) (ends : EndsIn dud v place name)
    (breaks : (trialOf (v.erase (place.child (.plain name))) file).Breaks) : (trialOf v file).Breaks := by
  rcases loadIn_erase barren ends file with same | ⟨_, reason, failed⟩
  · rw [trialOf, same] at breaks
    exact breaks
  · exact absurd breaks (not_breaks_trialOf failed)

theorem breaks_of_erase {p file : Path} (ends : EndsIn Harmless v place name) (found : file ∈ filesIn v p)
    (breaks : (trialOf v file).Breaks) : (trialOf (v.erase (place.child (.plain name))) file).Breaks := by
  rcases loadIn_erase barren_harmless ends file with same | ⟨harmless, _⟩
  · rw [trialOf, same]
    exact breaks
  · obtain ⟨plugin, ⟨there, stands⟩, wild⟩ :=
      (Detector.loadIn_breaks_iff (endsWith_of_mem_filesIn found).1).mp breaks
    exact absurd wild (harmless.2.2 _ stands plugin rfl _)

variable {folders : List DetectorFolder} {set : DetectorSet}

theorem detectors_erase {set' : DetectorSet} (ends : EndsIn Useless v place name) (noSlash : '/' ∉ name.toList)
    (loaded : loadIn v folders = .ok set)
    (loaded' : loadIn (v.erase (place.child (.plain name))) folders = .ok set') :
    set'.detectors = set.detectors := by
  rw [detectors_loadIn loaded, detectors_loadIn loaded', usable, usable, trials, trials, List.filterMap_flatMap,
    List.filterMap_flatMap]
  exact congrArg _ (List.flatMap_congr fun folder _ => usable_erase ends noSlash folder)

/-- Taking a useless entry away leaves the detectors as they are. -/
theorem loadIn_erase_eq_ok (ends : EndsIn Useless v place name) (noSlash : '/' ∉ name.toList)
    (loaded : loadIn v folders = .ok set) :
    ∃ set', loadIn (v.erase (place.child (.plain name))) folders = .ok set' ∧ set'.detectors = set.detectors := by
  obtain ⟨answers, steady, _⟩ := loadIn_eq_ok_iff.mp loaded
  have steady' : ∀ t ∈ trials (v.erase (place.child (.plain name))) folders, ¬t.Breaks := by
    intro t found breaks
    rcases mem_trials.mp found with ⟨listed, own⟩ | ⟨p, file, listed, inside, rfl⟩
    · exact steady t (mem_trials.mpr (.inl ⟨listed, own⟩)) breaks
    · have inside' := mem_filesIn_erase barren_useless ends inside
      exact steady _ (mem_trials.mpr (.inr ⟨p, file, listed, inside', rfl⟩)) (breaks_erase barren_useless ends breaks)
  have loaded' := loadIn_eq_ok_iff.mpr
    ⟨fun folder listed => answers_erase barren_useless ends (answers folder listed), steady', rfl⟩
  exact ⟨_, loaded', detectors_erase ends noSlash loaded loaded'⟩

theorem loadIn_eq_ok_of_erase (ends : EndsIn Harmless v place name) (noSlash : '/' ∉ name.toList)
    (loaded' : loadIn (v.erase (place.child (.plain name))) folders = .ok set) :
    ∃ set', loadIn v folders = .ok set' ∧ set'.detectors = set.detectors := by
  obtain ⟨answers, steady, _⟩ := loadIn_eq_ok_iff.mp loaded'
  have steady' : ∀ t ∈ trials v folders, ¬t.Breaks := by
    intro t found breaks
    rcases mem_trials.mp found with ⟨listed, own⟩ | ⟨p, file, listed, inside, rfl⟩
    · exact steady t (mem_trials.mpr (.inl ⟨listed, own⟩)) breaks
    · have breaks' := breaks_of_erase ends inside breaks
      rcases mem_filesIn_of_erase barren_harmless ends inside with inside' | ⟨folder, offered, rfl⟩
      · exact steady _ (mem_trials.mpr (.inr ⟨p, file, listed, inside', rfl⟩)) breaks'
      · obtain ⟨reason, failed⟩ := loadIn_erased folder offered noSlash
        exact not_breaks_trialOf failed breaks'
  have loaded := loadIn_eq_ok_iff.mpr ⟨fun folder listed => answers_of_erase ends (answers folder listed), steady', rfl⟩
  exact ⟨_, loaded, (detectors_erase (useless_of_harmless ends) noSlash loaded loaded').symm⟩

end Erasure

theorem loadIn_missing {v : Volume} {p : Path} (missing : v.isFolder p = .ok false)
    (before after : List DetectorFolder) :
    loadIn v (before ++ .folder p :: after) = loadIn v (before ++ after) := by
  have skipped : ∀ s, folderIn v s (.folder p) = .ok s := by
    intro s
    rw [folderIn, missing]
    rfl
  rw [loadIn, loadIn, List.foldlM_append, List.foldlM_append]
  refine bind_congr fun s => ?_
  rw [List.foldlM_cons, skipped]
  rfl

theorem applicable_of_usable {v : Volume} {folders : List DetectorFolder} {d : Detector}
    (found : d ∈ usable (trials v folders)) : Detector.Applicable d.pattern := by
  rcases mem_usable_trials.mp found with ⟨_, known⟩ | ⟨file, plugin, _, offers⟩
  · obtain ⟨⟨name, source⟩, _, made⟩ := List.mem_filterMap.mp known
    dsimp only at made
    cases result : Detector.make name (.text source) with
    | ok d' =>
      rw [result] at made
      cases made
      exact Detector.applicable_of_make result
    | error r =>
      rw [result] at made
      cases made
  · exact offers.applicable

theorem useless_unclosed (second third : Detector.Plugin) :
    EndsIn Useless (shelves (textPlugin "(") second third) ⟨0, [.plain "d"]⟩ "p.py" where
  entry s found := by
    cases found
    have entry : (shelves (textPlugin "(") second third).get? ((⟨0, [.plain "d"]⟩ : Location).child (.plain "p.py")) =
        some (.plugin (textPlugin "(")) := rfl
    rw [entry]
    refine ⟨by simp, fun plugin same fileName d offers => ?_⟩
    cases same
    obtain ⟨_, _, ⟨offer, offered, compiles⟩, _⟩ := offers
    cases offered
    have fails : (Pattern.compile .none (Text.ofString "(").toString).isOk = false := rfl
    have compiled : Pattern.compile .none (Text.ofString "(").toString = .ok d.pattern := compiles
    rw [compiled] at fails
    cases fails
  target links target link := by cases link

end DetectorSet

end SiteSurvey
