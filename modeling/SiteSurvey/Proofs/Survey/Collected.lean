import SiteSurvey.Proofs.Survey.Sought

set_option autoImplicit false

namespace SiteSurvey

open Volume

namespace Source

/-- An order in which the system may list each folder of a volume. -/
structure Listing (v : Volume) where
  of : Location → List (Name × Entry)
  perm : ∀ l, (of l).Perm (v.children l)

namespace Listing

variable {v : Volume} {root : Path} {place : Location}

/-- The entries other than folders that are met on the way down from a place, in the order in which they are met: first
those of a folder and then those of the folders in it, one after the other. A folder whose path is too long is passed
over. -/
def walk (order : Listing v) (root : Path) (place : Location) : Nat → List Name → List (List Name × Entry)
  | 0, _ => []
  | depth + 1, names =>
      if isListed root (pathOf root names) then
        let inside := order.of (place.under names)
        (inside.filter fun d => !d.2.isFolder).map (fun d => (names ++ [d.1], d.2)) ++
          (inside.filter fun d => d.2.isFolder).flatMap fun d => walk order root place depth (names ++ [d.1])
      else []

def take? (root : Path) (suffixes : List String) (d : List Name × Entry) : Except Failure (Option Path) :=
  let p := pathOf root d.1
  if suffixes.contains (Text.lowerString p.suffix) then
    if isLong p then .error (tooLong p) else .ok (if d.2.isLink then none else some p)
  else .ok none

def collect (order : Listing v) (root : Path) (place : Location) (suffixes : List String) (depth : Nat) :
    Except Failure (List Path) := do
  let found ← (order.walk root place depth []).mapM (take? root suffixes)
  return Path.sorted (found.filterMap id)

theorem mem_of (sound : Sound v) (order : Listing v) {l : Location} {n : Name} {e : Entry} :
    (n, e) ∈ order.of l ↔ v.get? (l.child n) = some e := by
  rw [(order.perm l).mem_iff, children, List.mem_filterMap]
  constructor
  · rintro ⟨⟨k, d⟩, entry, made⟩
    dsimp only at made
    split at made
    · next under =>
      cases made
      have here := sound.get?_of_mem entry
      rw [below?_eq_some_iff.mp under] at here
      exact here
    · cases made
  · intro here
    have under : (l.child n).below? l = some [n] := below?_eq_some_iff.mpr rfl
    refine ⟨(l.child n, e), mem_of_get? here (by simp [Location.child]), ?_⟩
    simp only [under]

theorem nodup_children (sound : Sound v) (l : Location) : ((v.children l).map (·.1)).Nodup := by
  have apart : v.entries.Pairwise fun d d' => d.1 ≠ d'.1 := List.pairwise_map.mp sound.distinct
  rw [List.Nodup, List.pairwise_map, children, List.pairwise_filterMap]
  refine apart.imp fun {d d'} other b made b' made' same => other ?_
  dsimp only at made made'
  split at made
  · next under =>
    split at made'
    · next under' =>
      cases made
      cases made'
      cases same
      rw [below?_eq_some_iff.mp under, below?_eq_some_iff.mp under']
    · cases made'
  · cases made

theorem nodup_of (sound : Sound v) (order : Listing v) (l : Location) : ((order.of l).map (·.1)).Nodup :=
  ((order.perm l).map _).nodup_iff.mpr (nodup_children sound l)

theorem mem_walk_iff (sound : Sound v) (order : Listing v) {depth : Nat} {names found : List Name} {e : Entry} :
    (found, e) ∈ order.walk root place depth names ↔
      ∃ more, found = names ++ more ∧ more ≠ [] ∧ more.length ≤ depth ∧ v.get? (place.under found) = some e ∧
        e.isFolder = false ∧ isListed root (pathOf root found.dropLast) = true := by
  have child : ∀ names n, (place.under names).child n = place.under (names ++ [n]) := by
    intro names n
    simp [Location.under, Location.child]
  induction depth generalizing names with
  | zero =>
    simp only [walk, List.not_mem_nil, false_iff, not_exists, not_and]
    intro more _ filled none
    exact absurd (List.eq_nil_of_length_eq_zero (Nat.le_zero.mp none)) filled
  | succ depth ih =>
    rw [walk]
    by_cases listed : isListed root (pathOf root names) = true
    · simp only [listed, if_true, List.mem_append, List.mem_map, List.mem_filter, List.mem_flatMap, ih]
      constructor
      · rintro (⟨⟨n, e'⟩, ⟨inside, solid⟩, same⟩ | ⟨⟨n, e'⟩, ⟨inside, _⟩, more, rfl, filled, bound, here, rest⟩)
        · cases same
          rw [mem_of sound order, child] at inside
          exact ⟨[n], rfl, by simp, by simp, inside, by simpa using solid, by rwa [List.dropLast_concat]⟩
        · refine ⟨n :: more, by simp, by simp, by simpa using bound, here, rest⟩
      · rintro ⟨more, rfl, filled, bound, here, solid, shown⟩
        obtain ⟨n, rest, rfl⟩ := List.exists_cons_of_ne_nil filled
        cases rest with
        | nil =>
          refine .inl ⟨(n, e), ⟨?_, by simpa using solid⟩, rfl⟩
          rwa [mem_of sound order, child]
        | cons m rest =>
          -- What has something below it is a folder, and so the walk goes there.
          have folder : v.get? (place.under (names ++ [n])) = some .folder := by
            rw [Location.under, List.append_cons, ← List.append_assoc] at here
            exact sound.folder_above (by rw [here]; simp) (List.cons_ne_nil m rest)
          refine .inr ⟨(n, .folder), ⟨?_, rfl⟩, m :: rest, by simp, by simp, by simpa using bound, ?_⟩
          · rwa [mem_of sound order, child]
          · exact ⟨here, solid, shown⟩
    · simp only [listed, Bool.false_eq_true, if_false, List.not_mem_nil, false_iff, not_exists, not_and]
      rintro more rfl filled _ _ _ shown
      rw [List.dropLast_append_of_ne_nil filled] at shown
      exact listed (isListed_of_append shown)

theorem nodup_walk (sound : Sound v) (order : Listing v) (depth : Nat) (names : List Name) :
    ((order.walk root place depth names).map (·.1)).Nodup := by
  induction depth generalizing names with
  | zero => exact List.nodup_nil
  | succ depth ih =>
    rw [walk]
    split
    · next =>
      have apart : (order.of (place.under names)).Pairwise fun d d' => d.1 ≠ d'.1 :=
        List.pairwise_map.mp (nodup_of sound order _)
      -- What is met in a folder starts with its name, and goes on from there.
      have starts : ∀ d : Name × Entry, ∀ found ∈ (order.walk root place depth (names ++ [d.1])).map (·.1),
          ∃ more, more ≠ [] ∧ found = names ++ d.1 :: more := by
        intro d found met
        obtain ⟨⟨_, e⟩, inside, rfl⟩ := List.mem_map.mp met
        obtain ⟨more, rfl, filled, _⟩ := (mem_walk_iff sound order).mp inside
        exact ⟨more, filled, by simp⟩
      rw [List.map_append, List.map_map, List.map_flatMap, List.nodup_append]
      refine ⟨?_, ?_, ?_⟩
      · refine List.pairwise_map.mpr ((apart.filter _).imp fun {d d'} other same => other ?_)
        simpa using same
      · refine List.nodup_flatMap.mpr ⟨fun d _ => ih _, (apart.filter _).imp fun {d d'} other => ?_⟩
        intro found met met'
        obtain ⟨more, _, rfl⟩ := starts d found met
        obtain ⟨more', _, same⟩ := starts d' _ met'
        exact other (List.cons.inj (List.append_cancel_left same)).1
      · rintro _ near found met rfl
        obtain ⟨d, _, rfl⟩ := List.mem_map.mp near
        obtain ⟨d', _, met⟩ := List.mem_flatMap.mp met
        obtain ⟨more, filled, same⟩ := starts d' _ met
        exact filled (List.cons.inj (List.append_cancel_left same)).2.symm
    · exact List.nodup_nil

section Collect

variable {suffixes : List String} {depth : Nat}

def kept? (root : Path) (suffixes : List String) (d : List Name × Entry) : Option Path :=
  if suffixes.contains (Text.lowerString (pathOf root d.1).suffix) && !d.2.isLink then some (pathOf root d.1) else none

theorem kept?_eq_some_iff {d : List Name × Entry} {p : Path} :
    kept? root suffixes d = some p ↔
      Text.lowerString p.suffix ∈ suffixes ∧ d.2.isLink = false ∧ p = pathOf root d.1 := by
  unfold kept?
  split
  · next keeps =>
    rw [Bool.and_eq_true, List.contains_iff_mem, Bool.not_eq_true'] at keeps
    constructor
    · rintro ⟨⟩
      exact ⟨keeps.1, keeps.2, rfl⟩
    · rintro ⟨_, _, rfl⟩
      rfl
  · next drops =>
    rw [Bool.and_eq_true, List.contains_iff_mem, Bool.not_eq_true'] at drops
    constructor
    · rintro ⟨⟩
    · rintro ⟨fits, noLink, rfl⟩
      exact absurd ⟨fits, noLink⟩ drops

theorem take?_cases (d : List Name × Entry) :
    (Text.lowerString (pathOf root d.1).suffix ∈ suffixes ∧ isLong (pathOf root d.1) = true ∧
      take? root suffixes d = .error (tooLong (pathOf root d.1))) ∨
    ((Text.lowerString (pathOf root d.1).suffix ∈ suffixes → isLong (pathOf root d.1) = false) ∧
      take? root suffixes d = .ok (kept? root suffixes d)) := by
  unfold take? kept?
  by_cases fits : suffixes.contains (Text.lowerString (pathOf root d.1).suffix) = true
  · by_cases long : isLong (pathOf root d.1) = true
    · exact .inl ⟨List.contains_iff_mem.mp fits, long, by simp only [fits, long, if_true]⟩
    · rw [Bool.not_eq_true] at long
      refine .inr ⟨fun _ => long, ?_⟩
      simp only [fits, long, if_true, Bool.false_eq_true, if_false, Bool.true_and]
      cases d.2.isLink <;> rfl
  · refine .inr ⟨fun inside => absurd (List.contains_iff_mem.mpr inside) fits, ?_⟩
    rw [Bool.not_eq_true] at fits
    simp only [fits, Bool.false_eq_true, if_false, Bool.false_and]

theorem mem_walk_deep (sound : Sound v) (order : Listing v) (deep : ∀ e ∈ v.entries, e.1.names.length ≤ depth)
    {names : List Name} {e : Entry} :
    (names, e) ∈ order.walk root place depth [] ↔
      names ≠ [] ∧ v.get? (place.under names) = some e ∧ e.isFolder = false ∧
        isListed root (pathOf root names.dropLast) = true := by
  rw [mem_walk_iff sound order]
  constructor
  · rintro ⟨more, rfl, filled, _, rest⟩
    exact ⟨filled, rest⟩
  · rintro ⟨filled, here, rest⟩
    have bound := deep _ (mem_of_get? here (by simp [Location.under, filled]))
    refine ⟨names, rfl, filled, ?_, here, rest⟩
    rw [Location.under, List.length_append] at bound
    omega

theorem met_iff (sound : Sound v) (there : Folder v root place) (order : Listing v)
    (deep : ∀ e ∈ v.entries, e.1.names.length ≤ depth) {p : Path} {e : Entry} :
    (∃ names, (names, e) ∈ order.walk root place depth [] ∧ p = pathOf root names ∧ Text.lowerString p.suffix ∈ suffixes) ↔
      Sought v root place suffixes p e ∧ isListed root p.parent = true := by
  have parent : ∀ names : List Name, names ≠ [] → (pathOf root names).parent = pathOf root names.dropLast := by
    intro names filled
    obtain ⟨init, n, rfl⟩ := (List.eq_nil_or_concat names).resolve_left filled
    rw [List.concat_eq_append, parent_pathOf, List.dropLast_concat]
  constructor
  · rintro ⟨names, met, rfl, fits⟩
    obtain ⟨filled, here, solid, listed⟩ := (mem_walk_deep sound order deep).mp met
    exact ⟨⟨⟨names, rfl, here⟩, solid, fits⟩, by rwa [parent names filled]⟩
  · rintro ⟨⟨⟨names, rfl, here⟩, solid, fits⟩, listed⟩
    have filled := ne_nil_of_solid there here solid
    rw [parent names filled] at listed
    exact ⟨names, (mem_walk_deep sound order deep).mpr ⟨filled, here, solid, listed⟩, rfl, fits⟩

theorem listed_of_script (tidy : Tidy v) (there : Folder v root place) {p : Path} {e : Entry}
    (sought : Sought v root place suffixes p e) (short : p.toString.utf8ByteSize ≤ maxPath) :
    isListed root p.parent = true := by
  obtain ⟨⟨names, rfl, here⟩, solid, _⟩ := sought
  obtain ⟨init, n, rfl⟩ := (List.eq_nil_or_concat names).resolve_left (ne_nil_of_solid there here solid)
  rw [List.concat_eq_append] at here short ⊢
  have entry := mem_of_get? here (by simp [Location.under])
  have filled := tidy.filled _ entry n (by simp [Location.under])
  rw [pathOf_child] at short
  rw [parent_pathOf]
  exact isListed_of_short filled short

theorem nodup_kept (sound : Sound v) (tidy : Tidy v) (order : Listing v)
    (deep : ∀ e ∈ v.entries, e.1.names.length ≤ depth) :
    ((order.walk root place depth []).filterMap (kept? root suffixes)).Nodup := by
  have apart : (order.walk root place depth []).Pairwise fun d d' => d.1 ≠ d'.1 :=
    List.pairwise_map.mp (nodup_walk sound order depth [])
  have plain : ∀ d ∈ order.walk root place depth [], (place.under d.1).IsPlain := by
    rintro ⟨names, e⟩ met
    obtain ⟨filled, here, _⟩ := (mem_walk_deep sound order deep).mp met
    exact tidy.plain _ (mem_of_get? here (by simp [Location.under, filled]))
  refine List.pairwise_filterMap.mpr (apart.imp_of_mem fun {d d'} met met' other p kept p' kept' => ?_)
  rintro rfl
  have shape := (kept?_eq_some_iff.mp kept).2.2
  have shape' := (kept?_eq_some_iff.mp kept').2.2
  exact other (pathOf_inj (plain d met) (plain d' met') (shape.symm.trans shape'))

theorem mem_kept_iff (sound : Sound v) (tidy : Tidy v) (there : Folder v root place) (order : Listing v)
    (deep : ∀ e ∈ v.entries, e.1.names.length ≤ depth)
    (short : ∀ d ∈ order.walk root place depth [], Text.lowerString (pathOf root d.1).suffix ∈ suffixes →
      isLong (pathOf root d.1) = false) {p : Path} :
    p ∈ (order.walk root place depth []).filterMap (kept? root suffixes) ↔ IsScript v root place suffixes p := by
  simp only [List.mem_filterMap, kept?_eq_some_iff]
  constructor
  · rintro ⟨⟨names, e⟩, met, fits, noLink, rfl⟩
    have near := short _ met fits
    obtain ⟨sought, _⟩ := (met_iff sound there order deep).mp ⟨names, met, rfl, fits⟩
    exact ⟨e, sought, noLink, Nat.not_lt.mp (decide_eq_false_iff_not.mp near)⟩
  · rintro ⟨e, sought, noLink, near⟩
    have listed := listed_of_script tidy there sought near
    obtain ⟨names, met, shape, fits⟩ := (met_iff sound there order deep).mpr ⟨sought, listed⟩
    exact ⟨(names, e), met, fits, noLink, shape⟩

/-- A walk from folder to folder comes to what a search comes to, in whichever order the folders are listed. -/
theorem collect_cases (sound : Sound v) (tidy : Tidy v) (there : Folder v root place) (order : Listing v)
    (deep : ∀ e ∈ v.entries, e.1.names.length ≤ depth) :
    (∃ p, IsFar v root place suffixes p ∧ order.collect root place suffixes depth = .error (tooLong p)) ∨
      (∀ p, ¬IsFar v root place suffixes p) ∧
        order.collect root place suffixes depth = .ok (Path.sorted (below v root place suffixes)) := by
  by_cases fails : ∃ d ∈ order.walk root place depth [], ∃ f, take? root suffixes d = .error f
  · obtain ⟨⟨names, e⟩, met, f, failed, whole⟩ := mapM_eq_error fails
    rcases take?_cases (names, e) with ⟨fits, long, far⟩ | ⟨_, done⟩
    · cases far.symm.trans failed
      obtain ⟨sought, listed⟩ := (met_iff sound there order deep).mp ⟨names, met, rfl, fits⟩
      refine .inl ⟨pathOf root names, ⟨e, sought, decide_eq_true_iff.mp long, listed⟩, ?_⟩
      rw [collect, whole]
      rfl
    · cases done.symm.trans failed
  · have each : ∀ d ∈ order.walk root place depth [],
        (Text.lowerString (pathOf root d.1).suffix ∈ suffixes → isLong (pathOf root d.1) = false) ∧
          take? root suffixes d = .ok (kept? root suffixes d) := by
      intro d met
      rcases take?_cases d with ⟨_, _, far⟩ | done
      · exact absurd ⟨d, met, _, far⟩ fails
      · exact done
    refine .inr ⟨?_, ?_⟩
    · rintro p ⟨e, sought, long, listed⟩
      obtain ⟨names, met, rfl, fits⟩ := (met_iff sound there order deep).mpr ⟨sought, listed⟩
      exact absurd long (decide_eq_false_iff_not.mp ((each _ met).1 fits))
    · have same : ∀ p, p ∈ (order.walk root place depth []).filterMap (kept? root suffixes) ↔
          p ∈ below v root place suffixes := fun p =>
        (mem_kept_iff sound tidy there order deep fun d met => (each d met).1).trans (mem_below_iff sound there).symm
      have perm := (List.perm_ext_iff_of_nodup (nodup_kept sound tidy order deep) (nodup_below sound tidy)).mpr same
      have found : ((order.walk root place depth []).map (kept? root suffixes)).filterMap id =
          (order.walk root place depth []).filterMap (kept? root suffixes) := by
        rw [List.filterMap_map]
        rfl
      rw [← Path.sorted_eq_of_perm (fun p => anchor_below) perm, ← found, collect,
        mapM_eq_ok fun d met => (each d met).2]
      rfl

end Collect

end Listing

section Order

variable {v u : Volume} {root : Path} {place : Location} {suffixes : List String}

theorem get?_of_perm (sound : Sound v) (perm : u.entries.Perm v.entries) (l : Location) : u.get? l = v.get? l := by
  have distinct : (u.entries.map (·.1)).Nodup := (perm.map _).nodup_iff.mpr sound.distinct
  by_cases named : l.names = []
  · simp [get?, named]
  · cases here : v.get? l with
    | some e =>
      have entry := perm.mem_iff.mpr (mem_of_get? here named)
      simp [get?, named, find_of_mem distinct entry]
    | none =>
      cases here' : u.get? l with
      | none => rfl
      | some e =>
        have entry := perm.mem_iff.mp (mem_of_get? here' named)
        cases here.symm.trans (sound.get?_of_mem entry)

theorem folder_of_perm (sound : Sound v) (perm : u.entries.Perm v.entries) (there : Folder v root place) :
    Folder u root place :=
  there.within fun l _ _ here _ => (get?_of_perm sound perm l).trans here

/-- What a search comes to does not depend on the order of the entries either. -/
theorem search_of_perm (sound : Sound v) (there : Folder v root place) (perm : u.entries.Perm v.entries) :
    (∃ p, IsFar v root place suffixes p ∧ search u root place suffixes = .error (tooLong p)) ∨
      (∀ p, ¬IsFar v root place suffixes p) ∧
        search u root place suffixes = .ok (Path.sorted (below v root place suffixes)) := by
  have far : (overlong u root place suffixes).Perm (overlong v root place suffixes) := perm.filterMap _
  have near : (below u root place suffixes).Perm (below v root place suffixes) := perm.filterMap _
  rcases search_cases u root place suffixes with ⟨p, found, failed⟩ | ⟨none, done⟩
  · exact .inl ⟨p, (mem_overlong_iff sound there).mp (far.mem_iff.mp found), failed⟩
  · refine .inr ⟨fun p isFar => ?_, ?_⟩
    · have found := far.mem_iff.mpr ((mem_overlong_iff sound there).mpr isFar)
      rw [none] at found
      cases found
    · rw [done]
      exact congrArg Except.ok (Path.sorted_eq_of_perm (fun p => anchor_below) near)

end Order

section Sample

def mixedVolume : Volume where
  entries :=
    [(⟨0, [.plain "src"]⟩, .folder),
     (⟨0, [.plain "src", .plain "a"]⟩, .folder),
     (⟨0, [.plain "src", .plain "a", .plain "c.js"]⟩, .file ByteArray.empty),
     (⟨0, [.plain "src", .plain "l.js"]⟩, .link ⟨.relative, ["a", "c.js"]⟩),
     (⟨0, [.plain "src", .plain "d.js"]⟩, .folder),
     (⟨0, [.plain "src", .plain ".js"]⟩, .file ByteArray.empty),
     (⟨0, [.plain "src", .plain "B.JS"]⟩, .file ByteArray.empty)]
  serial := 0

theorem sound_mixed : Sound mixedVolume where
  distinct := by decide
  named := by decide
  rooted := by simp only [mixedVolume, List.forall_mem_cons]; exact ⟨rfl, rfl, rfl, rfl, rfl, rfl, rfl, by simp⟩
  proper := by decide
  temporary := by simp [mixedVolume]

theorem tidy_mixed : Tidy mixedVolume where
  plain := by simp [mixedVolume, Location.IsPlain]
  filled := by decide

def mixedSource : Path := ⟨.relative, ["src"]⟩

theorem folder_mixed : Folder mixedVolume mixedSource ⟨0, [.plain "src"]⟩ :=
  lookup_eq_ok_iff.mpr ⟨by unfold Askable; decide, rfl, _, .down rfl (by decide) (by decide) rfl rfl .here⟩

-- The system lists the folders from the last entry to the first.
def Listing.backwards (v : Volume) : Listing v where
  of l := (v.children l).reverse
  perm _ := List.reverse_perm _

theorem not_isFar_mixed (suffixes : List String) (p : Path) :
    ¬IsFar mixedVolume mixedSource ⟨0, [.plain "src"]⟩ suffixes p := by
  have short : ∀ d ∈ mixedVolume.entries, ∀ names ∈ (d.1.below? ⟨0, [.plain "src"]⟩).toList,
      (pathOf mixedSource names).toString.utf8ByteSize ≤ maxPath := by decide
  rintro ⟨e, sought, long, _⟩
  obtain ⟨d, entry, found, _⟩ := (sought_iff sound_mixed folder_mixed).mp sought
  obtain ⟨names, under, _, rfl, _⟩ := sought?_eq_some_iff.mp found
  have near := short d entry names (by simp [under])
  exact absurd long (Nat.not_lt.mpr near)

theorem isScript_mixed (names : List Name) {bytes : ByteArray}
    (here : mixedVolume.get? (Location.under ⟨0, [.plain "src"]⟩ names) = some (.file bytes))
    (fits : Text.lowerString (pathOf mixedSource names).suffix ∈ [".Js"].map Text.lowerString)
    (short : (pathOf mixedSource names).toString.utf8ByteSize ≤ maxPath) :
    IsScript mixedVolume mixedSource ⟨0, [.plain "src"]⟩ ([".Js"].map Text.lowerString) (pathOf mixedSource names) :=
  ⟨.file bytes, ⟨⟨names, rfl, here⟩, rfl, fits⟩, rfl, short⟩

end Sample

section Far

-- Steps up to the folder above and down again.
def detours : Nat → List String
  | 0 => []
  | n + 1 => ".." :: "a" :: detours n

def farSource : Path := ⟨.relative, "a" :: detours 818⟩

def farVolume : Volume where
  entries :=
    [(⟨0, [.plain "a"]⟩, .folder),
     (⟨0, [.plain "a", .plain "x.js"]⟩, .file ByteArray.empty)]
  serial := 0

theorem utf8ByteSize_detours (n : Nat) : (Path.joinNames ("a" :: detours n)).utf8ByteSize = 5 * n + 1 := by
  induction n with
  | zero => rfl
  | succ n ih =>
    have turn : ("a" ++ "/" ++ (".." ++ "/")).utf8ByteSize = 5 := rfl
    rw [detours, Path.joinNames_cons, Path.joinNames_cons, ← String.append_assoc, String.utf8ByteSize_append, turn, ih]
    omega

theorem leads_detours (n : Nat) :
    Leads farVolume true maxLinks ⟨0, [.plain "a"]⟩ (detours n) maxLinks ⟨0, [.plain "a"]⟩ := by
  induction n with
  | zero => exact .here
  | succ n ih => exact .up rfl (.down rfl (by decide) (by decide) rfl rfl ih)

theorem nullFree_detours (n : Nat) : (detours n).any (fun name => name.toList.contains '\x00') = false := by
  induction n with
  | zero => rfl
  | succ n ih =>
    rw [detours, List.any_cons, List.any_cons, ih]
    rfl

theorem utf8ByteSize_farSource : farSource.toString.utf8ByteSize = 4091 := by
  have shape : farSource.toString = Path.joinNames ("a" :: detours 818) := String.empty_append
  rw [shape, utf8ByteSize_detours]

theorem folder_far : Folder farVolume farSource ⟨0, [.plain "a"]⟩ := by
  refine lookup_eq_ok_iff.mpr ⟨⟨?_, ?_⟩, rfl, _, .down rfl (by decide) (by decide) rfl rfl (leads_detours 818)⟩
  · rw [farSource, List.any_cons, nullFree_detours]
    rfl
  · rw [utf8ByteSize_farSource]
    decide

theorem sound_far : Sound farVolume where
  distinct := by decide
  named := by decide
  rooted := by simp only [farVolume, List.forall_mem_cons]; exact ⟨rfl, rfl, by simp⟩
  proper := by decide
  temporary := by simp [farVolume]

theorem isFar_far : IsFar farVolume farSource ⟨0, [.plain "a"]⟩ ([".js"].map Text.lowerString)
    (farSource.child "x.js") := by
  have name : (farSource.child "x.js").name = "x.js" := by simp [Path.name, Path.child]
  have suffix : (farSource.child "x.js").suffix = ".js" := by
    rw [Path.suffix, name]
    decide
  refine ⟨.file ByteArray.empty, ⟨⟨[.plain "x.js"], rfl, rfl⟩, rfl, ?_⟩, ?_, ?_⟩
  · rw [suffix]
    exact List.mem_singleton.mpr rfl
  · have ending : ("/" : String).utf8ByteSize + "x.js".utf8ByteSize = 5 := rfl
    rw [Path.toString_child, if_neg (by simp [farSource]), String.utf8ByteSize_append, String.utf8ByteSize_append,
      utf8ByteSize_farSource, maxPath]
    omega
  · have parent : (farSource.child "x.js").parent = farSource := by simp [Path.parent, Path.child]
    rw [parent, isListed_iff, utf8ByteSize_farSource]
    decide

theorem eq_of_isFar_far {p : Path}
    (far : IsFar farVolume farSource ⟨0, [.plain "a"]⟩ ([".js"].map Text.lowerString) p) :
    p = farSource.child "x.js" := by
  obtain ⟨e, sought, _⟩ := far
  obtain ⟨d, entry, found, _⟩ := (sought_iff sound_far folder_far).mp sought
  obtain ⟨names, under, solid, rfl, _⟩ := sought?_eq_some_iff.mp found
  simp only [farVolume, List.mem_cons, List.not_mem_nil, or_false] at entry
  rcases entry with rfl | rfl
  · cases solid
  · cases under
    rfl

end Far

end Source

end SiteSurvey
