import Mathlib.Data.List.Nodup
import Mathlib.Data.List.Perm.Subperm
import Mathlib.Data.Nat.Find
import SiteSurvey.Proofs.Artifact.Landing
import SiteSurvey.Proofs.Artifact.Unique

set_option autoImplicit false

namespace SiteSurvey.Artifact

open Volume

/-- A folder that files can be written to, with temporary files on the way. -/
structure Room (v : Volume) (folder : Path) (scratch place : Location) : Prop where
  drafts : Folder v (straight folder) scratch
  there : Folder v folder place

/-- A name in a folder that a file can take without getting in the way of a path. -/
structure Slot (v : Volume) (folder : Path) (place : Location) (name : String) : Prop where
  proper : name ≠ ".."
  fits : name.utf8ByteSize + temporaryExtra ≤ maxName
  askable : Askable (folder.child name)
  solid : Solid v (place.child (.plain name))

section Write

variable {v ready : Volume} {folder : Path} {scratch place : Location} {name : String}

theorem landing_of_room (made : outcome (ensureFolders folder) v = (.ok (), ready))
    (room : Room ready folder scratch place) (slot : Slot ready folder place name) :
    Landing v folder name ready scratch place :=
  { made, room := room.drafts, fits := slot.fits, askable := slot.askable, there := room.there,
    free := slot.solid.not_folder }

theorem Room.made (room : Room v folder scratch place) : outcome (ensureFolders folder) v = (.ok (), v) :=
  ensureFolders_of_folder room.there

theorem Slot.lookup (room : Room v folder scratch place) (slot : Slot v folder place name) :
    v.lookup true (folder.child name) =
      .ok { place := place.child (.plain name), entry := v.get? (place.child (.plain name)) } := by
  have fits := slot.fits
  exact lookup_child_through slot.proper room.there slot.askable (by omega) slot.solid.not_link

theorem Slot.unlinked (made : outcome (ensureFolders folder) v = (.ok (), ready))
    (there : Folder ready folder place) (slot : Slot ready folder place name) :
    Unlinked v (folder.child name) := by
  intro ready' s target made' found
  rw [Path.parent_child] at made'
  obtain rfl := (Prod.mk.inj (made.symm.trans made')).2
  obtain ⟨_, _, place', there', rfl⟩ := (lookup_child_iff slot.proper).mp found
  obtain rfl := there.unique there'
  exact slot.solid.not_link target

theorem Room.landed (room : Room v folder scratch place) (slot : Slot v folder place name) (bytes : ByteArray) :
    Room (landed v name scratch place bytes) folder scratch place := by
  have within : Within v (Artifact.landed v name scratch place bytes) := within_landed slot.solid
  exact ⟨room.drafts.within within, room.there.within within⟩

theorem solid_landed {l : Location} (plain : l.IsPlain) (solid : Solid v l) (bytes : ByteArray) :
    Solid (landed v name scratch place bytes) l := by
  intro e found
  rw [get?_landed plain] at found
  split at found
  · cases found
    rfl
  · exact solid e found

theorem Slot.landed {other : String} (room : Room v folder scratch place) (slot : Slot v folder place other)
    (bytes : ByteArray) : Slot (landed v name scratch place bytes) folder place other :=
  { slot with solid := solid_landed (room.there.isPlain.child other) slot.solid bytes }

end Write

theorem mem_entries_of_get? {v : Volume} {l : Location} (named : l.names ≠ []) (present : v.get? l ≠ none) :
    l ∈ v.entries.map (·.1) := by
  by_contra absent
  apply present
  simp only [get?, List.isEmpty_iff, named, if_false, Option.map_eq_none_iff, List.find?_eq_none]
  intro e found same
  exact absent (List.mem_map.mpr ⟨e, found, by simpa using same⟩)

section Search

variable (v : Volume) (folder : Path) (place : Location) (opening ending : String) (m : Moment)

def candidatePlace (count : Nat) : Location :=
  place.child (.plain (candidateName opening ending m count))

/-- A candidate whose path and whose temporary file stay within the limits of the volume. -/
def Short (count : Nat) : Prop :=
  (candidateName opening ending m count).utf8ByteSize + temporaryExtra ≤ maxName ∧
    Askable (folder.child (candidateName opening ending m count))

/-- The candidates that a search comes to, those before them being taken, are within the limits and no links. -/
def Vacant : Prop :=
  ∀ j, (∀ i < j, v.get? (candidatePlace place opening ending m i) ≠ none) →
    Short folder opening ending m j ∧
      ∀ target, v.get? (candidatePlace place opening ending m j) ≠ some (.link target)

structure Next (count : Nat) : Prop where
  reach : count ≤ v.entries.length
  short : Short folder opening ending m count
  taken : ∀ j < count, v.isPresent (folder.child (candidateName opening ending m j)) = .ok true
  free : v.isPresent (folder.child (candidateName opening ending m count)) = .ok false

variable {v folder place opening ending m}

theorem short_of_few {count : Nat} (few : count < 100)
    (clean : (folder.names.any fun name => name.toList.contains '\x00') = false) (before : '\x00' ∉ opening.toList)
    (after : '\x00' ∉ ending.toList)
    (fits : opening.utf8ByteSize + m.stamp.utf8ByteSize + 3 + ending.utf8ByteSize + temporaryExtra ≤ maxName)
    (near : folder.anchor.text.utf8ByteSize + folder.toString.utf8ByteSize + 1 + maxName ≤ maxPath) :
    Short folder opening ending m count := by
  have size : (candidateName opening ending m count).utf8ByteSize ≤
      opening.utf8ByteSize + m.stamp.utf8ByteSize + 3 + ending.utf8ByteSize := by
    have digits : ∀ count < 100, (Nat.repr count).utf8ByteSize ≤ 2 := by decide
    have two := digits count few
    have dash : "-".utf8ByteSize = 1 := rfl
    have empty : "".utf8ByteSize = 0 := rfl
    rw [candidateName]
    split <;> simp only [String.utf8ByteSize_append] <;> omega
  have nullFree := not_mem_candidateName opening ending m count rfl before after
  have length := Path.utf8ByteSize_child_le folder (candidateName opening ending m count)
  refine ⟨by omega, ?_, by omega⟩
  rw [Path.child, List.any_append, clean]
  simpa using nullFree

theorem isPresent_child {name : String} (there : Folder v folder place) (proper : name ≠ "..")
    (fits : name.utf8ByteSize ≤ maxName) (askable : Askable (folder.child name))
    (unlinked : ∀ target, v.get? (place.child (.plain name)) ≠ some (.link target)) :
    v.isPresent (folder.child name) = .ok (v.get? (place.child (.plain name))).isSome := by
  rw [isPresent, holds, lookup_child_through proper there askable fits unlinked]
  cases v.get? (place.child (.plain name)) <;> rfl

theorem isPresent_candidate {count : Nat} (there : Folder v folder place)
    (short : Short folder opening ending m count)
    (unlinked : ∀ target, v.get? (candidatePlace place opening ending m count) ≠ some (.link target)) :
    v.isPresent (folder.child (candidateName opening ending m count)) =
      .ok (v.get? (candidatePlace place opening ending m count)).isSome := by
  have fits := short.1
  exact isPresent_child there (candidateName_proper _ _ _ _) (by omega) short.2 unlinked

theorem slot_of_short {count : Nat} (short : Short folder opening ending m count)
    (free : v.get? (candidatePlace place opening ending m count) = none) :
    Slot v folder place (candidateName opening ending m count) where
  proper := candidateName_proper _ _ _ _
  fits := short.1
  askable := short.2
  solid := fun e found => by cases free.symm.trans found

theorem candidatePlace_injective : Function.Injective (candidatePlace place opening ending m) :=
  fun _ _ same => candidateName_injective (child_injective same)

/-- More candidates than there are entries cannot all be taken. -/
theorem le_length_of_taken {count : Nat}
    (taken : ∀ j < count, v.get? (candidatePlace place opening ending m j) ≠ none) :
    count ≤ v.entries.length := by
  have distinct : ((List.range count).map (candidatePlace place opening ending m)).Nodup :=
    List.nodup_range.map candidatePlace_injective
  have inside : (List.range count).map (candidatePlace place opening ending m) ⊆ v.entries.map (·.1) := by
    intro l found
    obtain ⟨j, below, rfl⟩ := List.mem_map.mp found
    exact mem_entries_of_get? (child_names_ne_nil _ _) (taken j (List.mem_range.mp below))
  have bound := (distinct.subperm inside).length_le
  simpa using bound

/-- Some candidate is free, and the search comes to the first one, also on a second volume that holds the
same in the places of the candidates. -/
theorem Vacant.next {v' : Volume} (vacant : Vacant v folder place opening ending m)
    (there : Folder v' folder place)
    (same : ∀ j, v'.get? (candidatePlace place opening ending m j) =
      v.get? (candidatePlace place opening ending m j)) :
    ∃ count, Next v' folder opening ending m count ∧
      v.get? (candidatePlace place opening ending m count) = none := by
  -- The candidates are distinct and endless, the entries are not.
  have some_ : ∃ j, v.get? (candidatePlace place opening ending m j) = none := by
    by_contra all
    have full : v.entries.length + 1 ≤ v.entries.length := le_length_of_taken fun j _ free => all ⟨j, free⟩
    omega
  -- All candidates up to the first free one are reached, so that the volume can be asked about each of them.
  have reached : ∀ j ≤ Nat.find some_, Short folder opening ending m j ∧
      ∀ target, v.get? (candidatePlace place opening ending m j) ≠ some (.link target) :=
    fun j near => vacant j fun i before => Nat.find_min some_ (Nat.lt_of_lt_of_le before near)
  have present : ∀ j ≤ Nat.find some_, v'.isPresent (folder.child (candidateName opening ending m j)) =
      .ok (v.get? (candidatePlace place opening ending m j)).isSome := by
    intro j near
    obtain ⟨short, unlinked⟩ := reached j near
    rw [← same] at unlinked ⊢
    exact isPresent_candidate there short unlinked
  have taken : ∀ j < Nat.find some_, v'.get? (candidatePlace place opening ending m j) ≠ none := by
    intro j before
    rw [same]
    exact Nat.find_min some_ before
  refine ⟨Nat.find some_, ⟨le_length_of_taken taken, (reached _ (Nat.le_refl _)).1, fun j before => ?_, ?_⟩,
    Nat.find_spec some_⟩
  · rw [present j (Nat.le_of_lt before), Option.isSome_iff_ne_none.mpr (Nat.find_min some_ before)]
  · rw [present _ (Nat.le_refl _), Nat.find_spec some_]
    rfl

theorem outcome_firstFree {w : World} {fuel count k : Nat} (from_ : count ≤ k) (enough : k < count + fuel)
    (taken : ∀ j, count ≤ j → j < k → w.volume.isPresent (candidate folder opening ending m j) = .ok true)
    (free : w.volume.isPresent (candidate folder opening ending m k) ≠ .ok true) :
    outcome (firstFree folder opening ending m fuel count) w =
      match w.volume.isPresent (candidate folder opening ending m k) with
      | .ok _ => (.ok (candidate folder opening ending m k), w)
      | .error fault => (.error (.ofTrouble (.at_ fault (candidate folder opening ending m k).toString)), w) := by
  induction fuel generalizing count with
  | zero => omega
  | succ fuel ih =>
    rw [firstFree, outcome_bind, Survey.outcome_ask]
    rcases Nat.eq_or_lt_of_le from_ with rfl | later
    · cases present : w.volume.isPresent (candidate folder opening ending m count) with
      | error fault => rfl
      | ok b =>
        cases b with
        | true => exact absurd present free
        | false => rfl
    · rw [taken count (Nat.le_refl _) later]
      exact ih (by omega) (by omega) fun j lower upper => taken j (by omega) upper

theorem outcome_uniquePath_ok {w : World} {count : Nat} (noSlash : '/' ∉ opening.toList)
    (noSlash' : '/' ∉ ending.toList) (next : Next w.volume folder opening ending w.clock count) :
    outcome (uniquePath folder opening ending) w =
      (.ok (folder.child (candidateName opening ending w.clock count)), w) := by
  have child := fun j => candidate_eq_child opening ending w.clock j folder noSlash noSlash'
  have reach := next.reach
  -- The search is given as many tries as there are entries and one more, so it does not give up.
  have taken : ∀ j, 0 ≤ j → j < count →
      w.volume.isPresent (candidate folder opening ending w.clock j) = .ok true := by
    intro j _ below
    rw [child]
    exact next.taken j below
  have free : w.volume.isPresent (candidate folder opening ending w.clock count) = .ok false := by
    rw [child]
    exact next.free
  rw [outcome_uniquePath, ← child, outcome_firstFree (Nat.zero_le _) (by omega) taken (by simp [free]), free]

theorem Next.landing {scratch : Location} {count : Nat} (room : Room v folder scratch place)
    (next : Next v folder opening ending m count) :
    Landing v folder (candidateName opening ending m count) v scratch place where
  made := room.made
  room := room.drafts
  fits := next.short.1
  askable := next.short.2
  there := room.there
  free := by
    intro taken
    have present := isPresent_candidate room.there next.short (by simp [candidatePlace, taken])
    rw [candidatePlace, taken, next.free] at present
    cases present

end Search

end SiteSurvey.Artifact
