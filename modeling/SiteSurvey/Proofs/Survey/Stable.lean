import SiteSurvey.Proofs.Artifact.Batch
import SiteSurvey.Proofs.Survey.Corpus

set_option autoImplicit false

namespace SiteSurvey

theorem Path.suffixOf_append {start : String} {ending : List Char} (some_ : start ≠ "") (noDot : '.' ∉ ending)
    (more : ending ≠ []) : Path.suffixOf (start ++ String.ofList ('.' :: ending)) = String.ofList ('.' :: ending) := by
  have reversed : (start ++ String.ofList ('.' :: ending)).toList.reverse =
      ending.reverse ++ '.' :: start.toList.reverse := by simp
  have taken : (ending.reverse ++ '.' :: start.toList.reverse).takeWhile (· != '.') = ending.reverse := by
    rw [List.takeWhile_append_of_pos]
    · simp
    · intro c found
      have other : c ≠ '.' := fun same => noDot (same ▸ List.mem_reverse.mp found)
      simpa using other
  have long : 0 < start.toList.length := List.length_pos_iff.mpr (by simpa using some_)
  have condition : (ending.reverse.length + 1 < (ending.reverse ++ '.' :: start.toList.reverse).length &&
      !ending.reverse.isEmpty) = true := by
    simpa [more] using long
  rw [suffixOf, reversed, taken]
  simp only [condition, if_true, List.reverse_reverse]

namespace Volume

section Lists

variable {β : Type} {f : Location × Entry → Option β} {l : Location} {e : Entry}

theorem filterMap_putEntry (skipped : ∀ e, f (l, e) = none) (entries : List (Location × Entry)) :
    (putEntry l e entries).filterMap f = entries.filterMap f := by
  induction entries with
  | nil => simp [putEntry, skipped]
  | cons d rest ih =>
    obtain ⟨k, d⟩ := d
    by_cases same : k = l
    · subst same
      simp [putEntry, skipped]
    · simp [putEntry, same, List.filterMap_cons, ih]

theorem filterMap_erase (skipped : ∀ e, f (l, e) = none) (v : Volume) :
    (v.erase l).entries.filterMap f = v.entries.filterMap f := by
  rw [erase, List.filterMap_filter]
  refine List.filterMap_congr fun d _ => ?_
  obtain ⟨k, d⟩ := d
  by_cases same : k = l
  · subst same
    simp [skipped]
  · simp [same]

theorem filterMap_grown {v v' : Volume} (grown : Grown v v') (skipped : ∀ l, f (l, .folder) = none) :
    v'.entries.filterMap f = v.entries.filterMap f := by
  obtain ⟨added, entries, _⟩ := grown.entries
  have none : (added.map fun l => (l, Entry.folder)).filterMap f = [] := by
    simp [skipped]
  rw [entries, List.filterMap_append, none, List.append_nil]

end Lists

end Volume

namespace Artifact

open Volume

/-- A list made from the entries of a volume is the same after a file has landed, if it leaves out the
place of the file and that of the temporary file. -/
theorem filterMap_landed {β : Type} {f : Location × Entry → Option β} {ready : Volume} {name : String}
    {scratch place : Location} {bytes : ByteArray} (here : ∀ e, f (place.child (.plain name), e) = none)
    (draft : ∀ e, f (scratch.child (.temporary name ready.serial), e) = none) :
    (landed ready name scratch place bytes).entries.filterMap f = ready.entries.filterMap f := by
  rw [landed, settled, put, filterMap_putEntry here, filterMap_erase draft, drafted, put, filterMap_putEntry draft,
    withTemporary, put, filterMap_putEntry draft]

end Artifact

open Volume Artifact

theorem Volume.below?_eq_some {l base : Location} {names : List Name} (under : l.below? base = some names) :
    l = ⟨base.up, base.names ++ names⟩ := by
  unfold Location.below? at under
  split at under
  · rename_i inside
    rw [Bool.and_eq_true, beq_iff_eq, List.isPrefixOf_iff_prefix] at inside
    obtain ⟨up, rest, shape⟩ := inside
    cases under
    obtain ⟨lup, lnames⟩ := l
    cases up
    cases shape
    simp
  · cases under

namespace Source

def Skips (suffixes : List String) (text : String) : Prop :=
  suffixes.contains (Text.lowerString (Path.suffixOf text)) = false

theorem name_append (root : Path) (names : List Name) (n : Name) :
    ({ root with names := root.names ++ (names ++ [n]).map Name.text } : Path).name = n.text := by
  simp [Path.name]

theorem sought?_child {root : Path} {base place : Location} {suffixes : List String} {n : Name}
    (other : place.child n ≠ base) (skips : Skips suffixes n.text) (e : Entry) :
    sought? root base suffixes (place.child n, e) = none := by
  unfold sought?
  cases under : (place.child n).below? base with
  | none => rfl
  | some names =>
    have whole := below?_eq_some under
    rcases List.eq_nil_or_concat names with rfl | ⟨init, last, rfl⟩
    · exact absurd (by simpa using whole) other
    · have ends := congrArg (fun l => l.names.getLast?) whole
      obtain rfl : n = last := by simpa [Location.child] using ends
      simp only [Path.suffix, List.concat_eq_append, name_append]
      rw [skips, Bool.and_false]
      rfl

/-- What a search comes to depends only on the entries that it asks about. -/
theorem search_congr {v v' : Volume} {root : Path} {base : Location} {suffixes : List String}
    (same : ∀ keep : Location × Entry → Path → Bool,
      v'.entries.filterMap (fun d => (sought? root base suffixes d).filter (keep d)) =
        v.entries.filterMap fun d => (sought? root base suffixes d).filter (keep d)) :
    search v' root base suffixes = search v root base suffixes := by
  unfold search overlong below
  rw [same fun _ p => isLong p && isListed root p.parent, same fun d p => d.2.isFile && !isLong p]

theorem search_landed {ready : Volume} {root : Path} {base scratch place : Location} {suffixes : List String}
    {name : String} {bytes : ByteArray} (there : Folder ready root base)
    (solid : Solid ready (place.child (.plain name))) (skips : Skips suffixes name)
    (drafts : ∀ stem serial, Skips suffixes (Name.temporary stem serial).text) :
    search (landed ready name scratch place bytes) root base suffixes = search ready root base suffixes := by
  have here : place.child (.plain name) ≠ base := fun same => solid.not_folder (same ▸ there.get?)
  have draft : scratch.child (.temporary name ready.serial) ≠ base := (ne_temporary_of_isPlain there.isPlain _ _ _).symm
  refine search_congr fun keep => filterMap_landed (fun e => ?_) fun e => ?_
  · rw [sought?_child here skips]
    rfl
  · rw [sought?_child draft (drafts _ _)]
    rfl

theorem search_landedAll {ready : Volume} {root : Path} {base scratch place : Location} {suffixes : List String}
    {files : List (String × ByteArray)} (there : Folder ready root base) (plain : place.IsPlain)
    (solid : ∀ f ∈ files, Solid ready (place.child (.plain f.1))) (skips : ∀ f ∈ files, Skips suffixes f.1)
    (drafts : ∀ stem serial, Skips suffixes (Name.temporary stem serial).text) :
    search (landedAll ready scratch place files) root base suffixes = search ready root base suffixes := by
  induction files generalizing ready with
  | nil => rfl
  | cons f files ih =>
    rw [List.forall_mem_cons] at solid skips
    rw [landedAll, ih (there.within (within_landed solid.1))
      (fun g found => solid_landed (plain.child g.1) (solid.2 g found) f.2) skips.2,
      search_landed there solid.1 skips.1 drafts]

/-- New folders change nothing of what a search comes to. -/
theorem search_grown {v v' : Volume} (grown : Grown v v') (root : Path) (base : Location)
    (suffixes : List String) : search v' root base suffixes = search v root base suffixes :=
  search_congr fun keep => filterMap_grown grown fun l => by rw [sought?_folder]; rfl

section Reading

variable {v v' : Volume} {root p : Path} {base : Location} {suffixes : List String}

theorem chain_of_mem_below (sound : Sound v) (there : Folder v root base)
    (drafts : ∀ stem serial, Skips suffixes (Name.temporary stem serial).text)
    (found : p ∈ below v root base suffixes) :
    ∃ texts e, texts ≠ [] ∧ p = { root with names := root.names ++ texts } ∧ ".." ∉ texts ∧
      v.get? (base.down texts) = some e ∧ e.isFile = true ∧
      suffixes.contains (Text.lowerString (Path.suffixOf p.name)) = true := by
  obtain ⟨⟨l, e⟩, entry, names, under, file, rfl, fits⟩ := mem_below found
  have here := sound.get?_of_mem entry
  obtain rfl := below?_eq_some under
  have named : names ≠ [] := by
    rintro rfl
    simp only [List.append_nil] at here
    cases here.symm.trans there.get?
    cases file
  have present : v.get? ⟨base.up, base.names ++ names⟩ ≠ none := by simp [here]
  have last : ∀ n, names.getLast? = some n → ∃ text, n = .plain text := by
    intro n last
    cases n with
    | plain text => exact ⟨text, rfl⟩
    | temporary stem serial =>
      obtain ⟨init, rfl⟩ := List.getLast?_eq_some_iff.mp last
      rw [Path.suffix, name_append, drafts stem serial] at fits
      cases fits
  obtain ⟨texts, rfl, proper⟩ := sound.names_plain present last
  have same : (texts.map Name.plain).map Name.text = texts := by
    simp [Function.comp_def, Name.text]
  rw [same] at fits ⊢
  exact ⟨texts, e, by simpa using named, rfl, proper, here, file, fits⟩

/-- What reading a script comes to stays the same on a volume that keeps the ways of the first one and its
scripts. -/
theorem readIn_kept (sound : Sound v) (there : Folder v root base) (within : Within v v')
    (drafts : ∀ stem serial, Skips suffixes (Name.temporary stem serial).text)
    (kept : ∀ (l : Location) e, l.IsPlain → (∀ name, l.names.getLast? = some (.plain name) → ¬Skips suffixes name) →
      v.get? l = some e → v'.get? l = some e)
    (found : p ∈ below v root base suffixes) : readIn v' p (some root) = readIn v p (some root) := by
  obtain ⟨texts, e, named, rfl, proper, here, file, fits⟩ := chain_of_mem_below sound there drafts found
  have noLink : e.isLink = false := by
    cases e with
    | link target => cases file
    | _ => rfl
  -- Every place on the way to the script is kept: folders are, and the script itself has a name that is looked for.
  have same : ∀ xs ys, texts = xs ++ ys → v'.get? (base.down xs) = v.get? (base.down xs) := by
    intro xs ys split
    cases ys with
    | nil =>
      rw [List.append_nil] at split
      subst split
      rw [here]
      refine kept _ e (there.isPlain.down _) ?_ here
      intro name last skips
      obtain ⟨init, t, rfl⟩ := (List.eq_nil_or_concat texts).resolve_left named
      obtain rfl : t = name := by simpa [Location.down] using last
      have named' : ({ root with names := root.names ++ (init ++ [t]) } : Path).name = t := by simp [Path.name]
      rw [List.concat_eq_append, named', skips] at fits
      cases fits
    | cons y ys =>
      have folder := sound.folder_down here split (by simp)
      rw [folder, within _ (there.isPlain.down xs) _ folder rfl]
  have chain := sound.chain here noLink proper
  have looked := lookup_below there within chain named same
  rw [readIn_eq, readIn_eq, looked]
  cases found : v.lookup true { root with names := root.names ++ texts } with
  | error fault => rfl
  | ok spot =>
    rw [nameFor_of_locate (locate_of_lookup found) (locate_of_lookup there),
      nameFor_of_locate (locate_of_lookup (looked.trans found)) (locate_of_lookup (there.within within))]

/-- Files that no search for scripts finds change nothing of what reading a script comes to. -/
theorem readIn_landedAll {ready : Volume} {scratch place : Location} {files : List (String × ByteArray)}
    (sound : Sound v) (there : Folder v root base) (grown : Grown v ready)
    (solid : ∀ f ∈ files, Solid ready (place.child (.plain f.1))) (skips : ∀ f ∈ files, Skips suffixes f.1)
    (drafts : ∀ stem serial, Skips suffixes (Name.temporary stem serial).text)
    (found : p ∈ below v root base suffixes) :
    readIn (landedAll ready scratch place files) p (some root) = readIn v p (some root) := by
  refine readIn_kept sound there ?_ drafts ?_ found
  · intro l plain e here way
    exact within_landedAll solid l plain e (grown.get?_of_some here) way
  · intro l e plain kept here
    rw [get?_landedAll_of_ne plain, grown.get?_of_some here]
    rintro f inside rfl
    exact kept f.1 (by simp [Location.child]) (skips f inside)

end Reading

end Source

theorem foldlM_related {ε σ α : Type} {R : σ → σ → Prop} {f g : σ → α → Except ε σ} {as : List α}
    (step : ∀ a ∈ as, ∀ s s' t, R s s' → f s a = .ok t → ∃ t', g s' a = .ok t' ∧ R t t') :
    ∀ s s' t, R s s' → as.foldlM f s = .ok t → ∃ t', as.foldlM g s' = .ok t' ∧ R t t' := by
  induction as with
  | nil =>
    intro s s' t related done
    cases done
    exact ⟨s', rfl, related⟩
  | cons a as ih =>
    intro s s' t related done
    rw [List.foldlM_cons] at done
    cases first : f s a with
    | error e =>
      rw [first] at done
      cases done
    | ok u =>
      rw [first] at done
      obtain ⟨u', first', related'⟩ := step a List.mem_cons_self s s' u related first
      obtain ⟨t', rest, last⟩ := ih (fun b found => step b (List.mem_cons_of_mem _ found)) u u' t related' done
      refine ⟨t', ?_, last⟩
      rw [List.foldlM_cons, first']
      exact rest

theorem endsWith_py_eq_false {text : String} (other : text.toList.getLast? ≠ some 'y') :
    text.endsWith ".py" = false := by
  rw [Bool.eq_false_iff]
  intro ends
  apply other
  rw [String.endsWith, String.Slice.endsWith_string_iff, String.copy_toSlice] at ends
  obtain ⟨start, whole⟩ := ends
  rw [← whole, List.getLast?_append]
  rfl

namespace Detector

/-- Two volumes that are alike make the same of a detector, or turn it down both. -/
theorem loadIn_alike {apart : Location → Prop} {v v' : Volume} {p : Path} (alike : Alike apart v v')
    (spared : ∀ s, v'.lookup true p = .ok s → ¬apart s.place) :
    loadIn v' p = loadIn v p ∨ ∃ name message message',
      loadIn v p = .error (.detector name message) ∧ loadIn v' p = .error (.detector name message') := by
  have compared := lookup_matches alike true p
  generalize found : v.lookup true p = r at compared
  generalize found' : v'.lookup true p = r' at compared
  unfold loadIn
  cases compared with
  | same =>
    left
    rw [found, found']
  | ends place there =>
    exact absurd (place ▸ there) (spared _ found')
  | stops stop stop' =>
    rw [found, found']
    split
    · exact .inl rfl
    · exact .inr ⟨_, _, _, rfl, rfl⟩

end Detector

namespace DetectorSet

variable {apart : Location → Prop} {v v' : Volume}

def Same (s s' : DetectorSet) : Prop :=
  s'.detectors = s.detectors

theorem Same.insert {s s' : DetectorSet} (same : Same s s') (d : Detector) (path : String) :
    Same (s.insert d path) (s'.insert d path) := by
  unfold Same at same ⊢
  unfold DetectorSet.insert
  rw [same]
  split
  · exact same
  · rfl

theorem Same.insertAll {s s' : DetectorSet} (same : Same s s') (path : Detector → String) (ds : List Detector) :
    Same (ds.foldl (fun s d => s.insert d (path d)) s) (ds.foldl (fun s d => s.insert d (path d)) s') := by
  induction ds generalizing s s' with
  | nil => exact same
  | cons d ds ih => exact ih (same.insert d (path d))

theorem insertIn_alike {p : Path} {s s' t : DetectorSet} (alike : Alike apart v v')
    (spared : ∀ s, v'.lookup true p = .ok s → ¬apart s.place) (same : Same s s')
    (done : insertIn v s p = .ok t) : ∃ t', insertIn v' s' p = .ok t' ∧ Same t t' := by
  rcases Detector.loadIn_alike alike spared with equal | ⟨name, message, message', failed, failed'⟩
  · rw [insertIn] at done
    rw [insertIn, equal]
    cases loaded : Detector.loadIn v p with
    | ok d =>
      rw [loaded] at done
      cases done
      exact ⟨_, rfl, same.insert d _⟩
    | error f =>
      rw [loaded] at done
      cases f with
      | detector name message =>
        cases done
        exact ⟨_, rfl, same⟩
      | _ => cases done
  · rw [insertIn, failed] at done
    cases done
    rw [insertIn, failed']
    exact ⟨_, rfl, same⟩

theorem folder_alike {p : Path} {place : Location} (alike : Alike apart v v') (folder : Folder v p place) :
    Folder v' p place := by
  have compared := lookup_matches alike true p
  rw [folder] at compared
  generalize found' : v'.lookup true p = r' at compared
  cases compared with
  | same => exact found'
  | ends _ there => exact absurd folder.get? (alike.solid _ there).not_folder

theorem find_of_folder {p : Path} {place : Location} (folder : Folder v p place) :
    v.find p = .ok { place, entry := some .folder } := by
  rw [find, folder]
  rfl

theorem folderIn_alike {folder : DetectorFolder} {s s' t : DetectorSet} (alike : Alike apart v v')
    (listed : ∀ p place, candidates v' p place = candidates v p place)
    (spared : ∀ d place, folder = .folder d → ∀ p ∈ candidates v d place, ∀ s,
      v'.lookup true p = .ok s → ¬apart s.place)
    (same : Same s s') (done : folderIn v s folder = .ok t) :
    ∃ t', folderIn v' s' folder = .ok t' ∧ Same t t' := by
  cases folder with
  | builtin =>
    obtain rfl : s.insertBuiltin = t := Except.ok.inj done
    exact ⟨s'.insertBuiltin, rfl, same.insertAll _ Detector.builtin⟩
  | folder d =>
    rw [folderIn] at done
    rw [folderIn, isFolder_alike alike]
    cases answer : v.isFolder d with
    | error fault =>
      rw [answer] at done
      cases done
    | ok b =>
      rw [answer] at done
      cases b with
      | false =>
        cases done
        exact ⟨s', rfl, same⟩
      | true =>
        obtain ⟨place, there⟩ := isFolder_eq_true_iff.mp answer
        have first := find_of_folder there
        have second := find_of_folder (folder_alike alike there)
        rw [first] at done
        rw [second]
        change (candidates v d place).foldlM (insertIn v) s = .ok t at done
        change ∃ t', (candidates v' d place).foldlM (insertIn v') s' = .ok t' ∧ Same t t'
        -- Both volumes list the same files, and no file that is apart is among them.
        rw [listed]
        exact foldlM_related (fun p found s s' t same done =>
          insertIn_alike alike (spared d place rfl p found) same done) s s' t same done

/-- The detectors of folders are the same on two volumes that are alike and list the same files. -/
theorem loadIn_alike {folders : List DetectorFolder} {set : DetectorSet} (alike : Alike apart v v')
    (listed : ∀ p place, candidates v' p place = candidates v p place)
    (spared : ∀ d place, .folder d ∈ folders → ∀ p ∈ candidates v d place, ∀ s,
      v'.lookup true p = .ok s → ¬apart s.place)
    (loaded : loadIn v folders = .ok set) :
    ∃ set', loadIn v' folders = .ok set' ∧ set'.detectors = set.detectors := by
  have related : ∃ set', folders.foldlM (folderIn v') empty = .ok set' ∧ Same set set' :=
    foldlM_related (fun _ found _ _ _ same done =>
      folderIn_alike alike listed (fun d place here => spared d place (here ▸ found)) same done)
      empty empty set rfl loaded
  exact related

def isOffered (name : String) : Bool :=
  name.endsWith ".py" && !name.startsWith "_"

def offered (place : Location) (d : Location × Entry) : Option String :=
  match d.1.below? place with
  | some [n] => if isOffered n.text then some n.text else none
  | _ => none

theorem candidates_eq (v : Volume) (folder : Path) (place : Location) :
    candidates v folder place =
      ((v.entries.filterMap (offered place)).mergeSort fun a b => a ≤ b).map fun name => folder / name := by
  have names : ((v.children place).map fun child => child.1.text).filter isOffered =
      v.entries.filterMap (offered place) := by
    rw [children, List.map_filterMap, List.filter_filterMap]
    congr 1
    funext d
    obtain ⟨l, e⟩ := d
    simp only [offered]
    cases l.below? place with
    | none => rfl
    | some names =>
      cases names with
      | nil => rfl
      | cons n rest =>
        cases rest with
        | nil => rfl
        | cons _ _ => rfl
  rw [← names]
  rfl

theorem mem_candidates {v : Volume} {folder p : Path} {place : Location} (found : p ∈ candidates v folder place) :
    ∃ name, isOffered name = true ∧ p = folder / name := by
  rw [candidates_eq] at found
  obtain ⟨name, listed, rfl⟩ := List.mem_map.mp found
  obtain ⟨d, _, made⟩ := List.mem_filterMap.mp (List.mem_mergeSort.mp listed)
  unfold offered at made
  split at made
  · split at made
    · rename_i fits
      cases made
      exact ⟨_, fits, rfl⟩
    · cases made
  · cases made

theorem offered_child {base place : Location} {n : Name} (other : n.text.toList.getLast? ≠ some 'y') (e : Entry) :
    offered base (place.child n, e) = none := by
  unfold offered
  split
  · rename_i last under
    have whole := congrArg (fun l => l.names.getLast?) (below?_eq_some under)
    obtain rfl : n = last := by simpa [Location.child] using whole
    rw [isOffered, endsWith_py_eq_false other]
    rfl
  · rfl

theorem getLast?_append_of_some {start ending : String} {c : Char} (last : ending.toList.getLast? = some c) :
    (start ++ ending).toList.getLast? = some c := by
  rw [String.toList_append, List.getLast?_append, last]
  rfl

theorem candidates_landed {ready : Volume} {name : String} {scratch place : Location} {bytes : ByteArray}
    (other : name.toList.getLast? ≠ some 'y') (folder : Path) (base : Location) :
    candidates (landed ready name scratch place bytes) folder base = candidates ready folder base := by
  have draft : (Name.temporary name ready.serial).text.toList.getLast? ≠ some 'y' := by
    rw [Name.text, getLast?_append_of_some (c := 'p') (by decide)]
    decide
  rw [candidates_eq, candidates_eq, filterMap_landed (offered_child other) (offered_child draft)]

theorem candidates_landedAll {ready : Volume} {scratch place : Location} {files : List (String × ByteArray)}
    (others : ∀ f ∈ files, f.1.toList.getLast? ≠ some 'y') (folder : Path) (base : Location) :
    candidates (landedAll ready scratch place files) folder base = candidates ready folder base := by
  induction files generalizing ready with
  | nil => rfl
  | cons f files ih =>
    rw [List.forall_mem_cons] at others
    rw [landedAll, ih others.2, candidates_landed others.1]

end DetectorSet

end SiteSurvey
