import Mathlib.Data.List.Nodup
import SiteSurvey.Proofs.Survey.Stable

set_option autoImplicit false

namespace SiteSurvey

open Volume

def Volume.Location.under (l : Location) (names : List Name) : Location :=
  { l with names := l.names ++ names }

theorem Volume.below?_eq_some_iff {l base : Location} {names : List Name} :
    l.below? base = some names ↔ l = base.under names := by
  constructor
  · exact below?_eq_some
  · rintro rfl
    simp [Location.below?, Location.under]

/-- The names on a volume have been given: there are no temporary files, and no name is empty. -/
structure Volume.Tidy (v : Volume) : Prop where
  plain : ∀ e ∈ v.entries, e.1.IsPlain
  filled : ∀ e ∈ v.entries, ∀ n ∈ e.1.names, n.text ≠ ""

theorem Volume.map_plain_text {names : List Name} (plain : ∀ n ∈ names, ∃ text, n = .plain text) :
    (names.map Name.text).map Name.plain = names := by
  rw [List.map_map]
  refine (List.map_congr_left fun n inside => ?_).trans (List.map_id names)
  obtain ⟨text, rfl⟩ := plain n inside
  rfl

namespace Source

def pathOf (root : Path) (names : List Name) : Path :=
  { root with names := root.names ++ names.map Name.text }

theorem pathOf_inj {root : Path} {place : Location} {names names' : List Name} (plain : (place.under names).IsPlain)
    (plain' : (place.under names').IsPlain) (same : pathOf root names = pathOf root names') : names = names' := by
  have texts := List.append_cancel_left (congrArg Path.names same)
  rw [← map_plain_text fun n inside => plain n (List.mem_append_right _ inside), texts,
    map_plain_text fun n inside => plain' n (List.mem_append_right _ inside)]

section Sought

variable {v : Volume} {root p : Path} {place : Location} {suffixes : List String}

/-- A path by which a search asks about an entry: no folder, and with one of the suffixes. -/
structure Sought (v : Volume) (root : Path) (place : Location) (suffixes : List String) (p : Path) (e : Entry) :
    Prop where
  here : ∃ names, p = pathOf root names ∧ v.get? (place.under names) = some e
  solid : e.isFolder = false
  fits : Text.lowerString p.suffix ∈ suffixes

def IsScript (v : Volume) (root : Path) (place : Location) (suffixes : List String) (p : Path) : Prop :=
  ∃ e, Sought v root place suffixes p e ∧ e.isLink = false ∧ p.toString.utf8ByteSize ≤ maxPath

/-- An entry that a search gets to see, but cannot ask about. -/
def IsFar (v : Volume) (root : Path) (place : Location) (suffixes : List String) (p : Path) : Prop :=
  ∃ e, Sought v root place suffixes p e ∧ maxPath < p.toString.utf8ByteSize ∧ isListed root p.parent = true

theorem ne_nil_of_solid (there : Folder v root place) {names : List Name} {e : Entry}
    (here : v.get? (place.under names) = some e) (solid : e.isFolder = false) : names ≠ [] := by
  rintro rfl
  rw [Location.under, List.append_nil] at here
  cases there.get?.symm.trans here
  cases solid

theorem sought_iff (sound : Sound v) (there : Folder v root place) {e : Entry} :
    Sought v root place suffixes p e ↔ ∃ d ∈ v.entries, sought? root place suffixes d = some p ∧ d.2 = e := by
  constructor
  · rintro ⟨⟨names, rfl, here⟩, solid, fits⟩
    have named := ne_nil_of_solid there here solid
    refine ⟨(place.under names, e), mem_of_get? here (by simp [Location.under, named]), ?_, rfl⟩
    exact sought?_eq_some_iff.mpr ⟨names, below?_eq_some_iff.mpr rfl, solid, rfl, List.contains_iff_mem.mpr fits⟩
  · rintro ⟨d, entry, sought, rfl⟩
    obtain ⟨names, under, solid, rfl, fits⟩ := sought?_eq_some_iff.mp sought
    refine ⟨⟨names, rfl, ?_⟩, solid, List.contains_iff_mem.mp fits⟩
    rw [← below?_eq_some_iff.mp under]
    exact sound.get?_of_mem entry

theorem mem_below_iff (sound : Sound v) (there : Folder v root place) :
    p ∈ below v root place suffixes ↔ IsScript v root place suffixes p := by
  have kind : ∀ e : Entry, e.isFolder = false → (e.isFile = true ↔ e.isLink = false) := by
    intro e solid
    cases e <;> simp_all [Entry.isFile, Entry.isLink, Entry.isFolder]
  simp only [below, List.mem_filterMap, Option.filter_eq_some_iff, Bool.and_eq_true, Bool.not_eq_true', isLong,
    decide_eq_false_iff_not, Nat.not_lt, IsScript, sought_iff sound there]
  constructor
  · rintro ⟨d, entry, sought, file, short⟩
    obtain ⟨_, _, solid, _⟩ := sought?_eq_some_iff.mp sought
    exact ⟨d.2, ⟨d, entry, sought, rfl⟩, (kind d.2 solid).mp file, short⟩
  · rintro ⟨_, ⟨d, entry, sought, rfl⟩, noLink, short⟩
    obtain ⟨_, _, solid, _⟩ := sought?_eq_some_iff.mp sought
    exact ⟨d, entry, sought, (kind d.2 solid).mpr noLink, short⟩

theorem mem_overlong_iff (sound : Sound v) (there : Folder v root place) :
    p ∈ overlong v root place suffixes ↔ IsFar v root place suffixes p := by
  simp only [overlong, List.mem_filterMap, Option.filter_eq_some_iff, Bool.and_eq_true, isLong, decide_eq_true_eq,
    IsFar, sought_iff sound there]
  constructor
  · rintro ⟨d, entry, sought, long, listed⟩
    exact ⟨d.2, ⟨d, entry, sought, rfl⟩, long, listed⟩
  · rintro ⟨_, ⟨d, entry, sought, rfl⟩, long, listed⟩
    exact ⟨d, entry, sought, long, listed⟩

theorem nodup_below (sound : Sound v) (tidy : Tidy v) : (below v root place suffixes).Nodup := by
  have apart : v.entries.Pairwise fun d d' => d.1 ≠ d'.1 := List.pairwise_map.mp sound.distinct
  refine List.pairwise_filterMap.mpr (apart.imp_of_mem fun {d d'} entry entry' other p made p' made' => ?_)
  rintro rfl
  obtain ⟨names, under, _, shape, _⟩ := sought?_eq_some_iff.mp (Option.filter_eq_some_iff.mp made).1
  obtain ⟨names', under', _, shape', _⟩ := sought?_eq_some_iff.mp (Option.filter_eq_some_iff.mp made').1
  rw [below?_eq_some_iff] at under under'
  have plain := tidy.plain d entry
  have plain' := tidy.plain d' entry'
  rw [under] at plain other
  rw [under'] at plain' other
  exact other (congrArg place.under (pathOf_inj plain plain' (shape.symm.trans shape')))

theorem anchor_below (found : p ∈ below v root place suffixes) : p.anchor = root.anchor := by
  obtain ⟨_, _, _, _, _, rfl, _⟩ := mem_below found
  rfl

end Sought

section Listed

variable {root p : Path} {name : String}

theorem pathOf_child (root : Path) (names : List Name) (n : Name) :
    pathOf root (names ++ [n]) = (pathOf root names).child n.text := by
  simp [pathOf, Path.child]

theorem parent_pathOf (root : Path) (names : List Name) (n : Name) :
    (pathOf root (names ++ [n])).parent = pathOf root names := by
  rw [pathOf_child]
  simp [Path.parent, Path.child]

theorem isListed_iff : isListed root p = true ↔
    p.toString.utf8ByteSize + (if root.anchor == .relative && root.names.isEmpty && !p.names.isEmpty then 2 else 0) ≤
      maxPath :=
  decide_eq_true_iff

theorem isListed_of_child (listed : isListed root (p.child name) = true) : isListed root p = true := by
  have longer := Path.utf8ByteSize_le_child p name
  have named : (p.child name).names.isEmpty = false := by simp [Path.child]
  rw [isListed_iff, named, Bool.not_false, Bool.and_true, maxPath] at listed
  rw [isListed_iff, maxPath]
  by_cases start : (root.anchor == .relative && root.names.isEmpty) = true
  · rw [if_pos start] at listed
    split <;> omega
  · rw [if_neg start] at listed
    rw [Bool.not_eq_true] at start
    rw [start, Bool.false_and, if_neg Bool.false_ne_true]
    omega

theorem isListed_of_append {names more : List Name} (listed : isListed root (pathOf root (names ++ more)) = true) :
    isListed root (pathOf root names) = true := by
  induction more generalizing names with
  | nil => rwa [List.append_nil] at listed
  | cons n more ih =>
    rw [List.append_cons] at listed
    have next := ih listed
    rw [pathOf_child] at next
    exact isListed_of_child next

theorem isListed_of_short (filled : name ≠ "") (short : (p.child name).toString.utf8ByteSize ≤ maxPath) :
    isListed root p = true := by
  have longer := Path.utf8ByteSize_le_child p name
  have some_ : name.utf8ByteSize ≠ 0 := fun none => filled (String.utf8ByteSize_eq_zero_iff.mp none)
  rw [maxPath] at short
  rw [isListed_iff, maxPath]
  split
  · next dotted =>
    rw [Bool.and_eq_true, Bool.not_eq_true', List.isEmpty_eq_false_iff] at dotted
    have slash : "/".utf8ByteSize = 1 := rfl
    rw [Path.toString_child, if_neg dotted.2, String.utf8ByteSize_append, String.utf8ByteSize_append, slash] at short
    omega
  · omega

end Listed

end Source

end SiteSurvey
