import SiteSurvey.Proofs.Path
import SiteSurvey.Proofs.Volume.Walk

set_option autoImplicit false

namespace SiteSurvey.Volume

def origin (p : Path) : Location :=
  if p.anchor == .relative then .start else .elsewhere

theorem isPlain_origin (p : Path) : (origin p).IsPlain := by
  unfold origin
  split
  · exact Location.isPlain_start
  · exact Location.isPlain_elsewhere

def Askable (p : Path) : Prop :=
  (p.names.any fun name => name.toList.contains '\x00') = false ∧ p.toString.utf8ByteSize ≤ maxPath

section Paths

variable {v v' : Volume} {through : Bool} {p : Path} {name : String}

theorem Askable.of_child (askable : Askable (p.child name)) : Askable p := by
  obtain ⟨nullFree, short⟩ := askable
  refine ⟨?_, Nat.le_trans (Path.utf8ByteSize_le_child p name) (Nat.max_le.mpr ⟨by decide, short⟩)⟩
  simp only [Path.child, List.any_append, Bool.or_eq_false_iff] at nullFree
  exact nullFree.1

theorem lookup_of_askable (askable : Askable p) :
    v.lookup through p = v.walk through maxLinks (origin p) p.names := by
  obtain ⟨nullFree, short⟩ := askable
  rw [lookup, nullFree, if_neg Bool.false_ne_true, if_neg (Nat.not_lt.mpr short)]
  rfl

theorem askable_of_lookup {s : Spot} (found : v.lookup through p = .ok s) : Askable p := by
  unfold lookup at found
  split at found
  · simp at found
  · rename_i nullFree
    split at found
    · simp at found
    · rename_i short
      exact ⟨by simpa using nullFree, Nat.not_lt.mp short⟩

theorem lookup_eq_ok_iff {s : Spot} :
    v.lookup through p = .ok s ↔
      Askable p ∧ s.entry = v.get? s.place ∧
        ∃ left, Leads v through maxLinks (origin p) p.names left s.place := by
  constructor
  · intro found
    have askable := askable_of_lookup found
    rw [lookup_of_askable askable] at found
    exact ⟨askable, leads_of_walk found⟩
  · rintro ⟨askable, entry, left, leads⟩
    rw [lookup_of_askable askable, walk_of_leads leads, ← entry]

def Folder (v : Volume) (p : Path) (place : Location) : Prop :=
  v.lookup true p = .ok { place, entry := some .folder }

theorem Folder.get? {place : Location} (folder : Folder v p place) : v.get? place = some .folder :=
  (lookup_eq_ok_iff.mp folder).2.1.symm

theorem Folder.isPlain {place : Location} (folder : Folder v p place) : place.IsPlain := by
  obtain ⟨_, _, _, leads⟩ := lookup_eq_ok_iff.mp folder
  exact leads.isPlain (isPlain_origin p)

theorem Folder.unique {place place' : Location} (folder : Folder v p place) (folder' : Folder v p place') :
    place = place' := by
  have same := folder.symm.trans folder'
  simpa using same

theorem Folder.within {place : Location} (within : Within v v') (folder : Folder v p place) :
    Folder v' p place := by
  have stays := within place folder.isPlain _ folder.get? rfl
  obtain ⟨askable, _, left, leads⟩ := lookup_eq_ok_iff.mp folder
  refine lookup_eq_ok_iff.mpr ⟨askable, stays.symm, left, ?_⟩
  exact leads.within within (isPlain_origin p) (by simp [stays])

theorem lookup_child_iff {s : Spot} (proper : name ≠ "..") :
    v.lookup false (p.child name) = .ok s ↔
      Askable (p.child name) ∧ name.utf8ByteSize ≤ maxName ∧
        ∃ place, Folder v p place ∧
          s = { place := place.child (.plain name), entry := v.get? (place.child (.plain name)) } := by
  rw [lookup_eq_ok_iff]
  constructor
  · rintro ⟨askable, entry, left, leads⟩
    obtain ⟨middle, place, first, last⟩ := (leads_append (List.cons_ne_nil _ _)).mp leads
    obtain ⟨folder, fits, _, here⟩ := (leads_singleton proper).mp last
    refine ⟨askable, fits, place, ?_, ?_⟩
    · exact lookup_eq_ok_iff.mpr ⟨askable.of_child, folder.symm, middle, first⟩
    · rw [← here, ← entry]
  · rintro ⟨askable, fits, place, folder, rfl⟩
    obtain ⟨_, _, middle, first⟩ := lookup_eq_ok_iff.mp folder
    refine ⟨askable, rfl, middle, (leads_append (List.cons_ne_nil _ _)).mpr ⟨middle, place, first, ?_⟩⟩
    exact (leads_singleton proper).mpr ⟨folder.get?, fits, rfl, rfl⟩

theorem lookup_child_through (proper : name ≠ "..") {place : Location} (folder : Folder v p place)
    (askable : Askable (p.child name)) (fits : name.utf8ByteSize ≤ maxName)
    (noLink : ∀ target, v.get? (place.child (.plain name)) ≠ some (.link target)) :
    v.lookup true (p.child name) =
      .ok { place := place.child (.plain name), entry := v.get? (place.child (.plain name)) } := by
  obtain ⟨_, _, middle, first⟩ := lookup_eq_ok_iff.mp folder
  refine lookup_eq_ok_iff.mpr ⟨askable, rfl, middle, ?_⟩
  exact (leads_append (List.cons_ne_nil _ _)).mpr
    ⟨middle, place, first, .last folder.get? proper fits fun _ => noLink⟩

theorem isFolder_eq_true_iff : v.isFolder p = .ok true ↔ ∃ place, Folder v p place := by
  simp only [isFolder, holds, Folder]
  cases v.lookup true p with
  | error fault => cases fault <;> simp [VolumeFault.meansAbsent]
  | ok s =>
    obtain ⟨place, entry⟩ := s
    cases entry with
    | none => simp
    | some e => cases e <;> simp [Entry.isFolder]

theorem holds_error {test : Entry → Bool} {fault : VolumeFault} (failed : v.holds test p = .error fault) :
    fault.meansAbsent = false ∧ v.lookup true p = .error fault := by
  unfold holds at failed
  split at failed
  · simp at failed
  · simp at failed
  · rename_i other found
    split at failed
    · simp at failed
    · rename_i present
      cases failed
      exact ⟨by simpa using present, found⟩

theorem lookup_through_error {fault : VolumeFault} (failed : v.lookup false p = .error fault) :
    v.lookup true p = .error fault := by
  unfold lookup at failed ⊢
  split at failed
  · rename_i null
    rw [if_pos null]
    exact failed
  · rename_i null
    rw [if_neg null]
    split at failed
    · rename_i long
      rw [if_pos long]
      exact failed
    · rename_i short
      rw [if_neg short]
      exact walk_through_error failed

theorem lookup_passing {s : Spot} (found : v.lookup false p = .ok s)
    (noLink : ∀ target, s.entry ≠ some (.link target)) : v.lookup true p = .ok s := by
  obtain ⟨askable, entry, left, leads⟩ := lookup_eq_ok_iff.mp found
  exact lookup_eq_ok_iff.mpr ⟨askable, entry, left, leads.passing (by rw [← entry]; exact noLink)⟩

end Paths

end SiteSurvey.Volume
