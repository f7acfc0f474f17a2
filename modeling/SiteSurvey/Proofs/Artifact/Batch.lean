import SiteSurvey.Proofs.Artifact.Room
import SiteSurvey.Proofs.Volume.Alike
import SiteSurvey.Proofs.Volume.Sound

set_option autoImplicit false

namespace SiteSurvey.Artifact

open Volume

theorem temporary_ne_plain (scratch place : Location) (stem : String) (serial : Nat) (name : String) :
    scratch.child (.temporary stem serial) ≠ place.child (.plain name) := by
  intro same
  have last := congrArg (fun l => l.names.getLast?) same
  simp [Location.child] at last

section Fresh

variable {v : Volume} {name : String} {scratch place : Location} {bytes : ByteArray}

/-- The temporary file leaves no trace on a volume on which its number is new. -/
theorem get?_landed_of_fresh (fresh : Fresh v) (l : Location) :
    (landed v name scratch place bytes).get? l =
      if l = place.child (.plain name) then some (.file bytes) else v.get? l := by
  by_cases draft : l = scratch.child (.temporary name v.serial)
  · subst draft
    have other := temporary_ne_plain scratch place name v.serial name
    rw [if_neg other, fresh _ _ _ (Nat.le_refl _), landed, settled, get?_put_of_ne other,
      get?_erase_self (child_names_ne_nil _ _)]
  · exact get?_landed_of_ne draft

theorem Fresh.landed (fresh : Fresh v) : Fresh (landed v name scratch place bytes) := by
  intro l stem serial late
  have later : v.serial + 1 ≤ serial := late
  rw [get?_landed_of_fresh fresh, if_neg (temporary_ne_plain _ _ _ _ _), fresh l stem serial (by omega)]

theorem get?_landed_again (fresh : Fresh v) (there : v.get? (place.child (.plain name)) = some (.file bytes))
    (l : Location) : (landed v name scratch place bytes).get? l = v.get? l := by
  rw [get?_landed_of_fresh fresh]
  split
  · rename_i same
    rw [same, there]
  · rfl

end Fresh

/-- The volume after some files have landed in a folder, one after the other. -/
def landedAll (v : Volume) (scratch place : Location) : List (String × ByteArray) → Volume
  | [] => v
  | f :: files => landedAll (landed v f.1 scratch place f.2) scratch place files

section Files

variable {v : Volume} {scratch place l : Location} {files files' : List (String × ByteArray)}

theorem landedAll_append (v : Volume) (scratch place : Location) (files files' : List (String × ByteArray)) :
    landedAll v scratch place (files ++ files') =
      landedAll (landedAll v scratch place files) scratch place files' := by
  induction files generalizing v with
  | nil => rfl
  | cons f files ih => exact ih _

theorem get?_landedAll_of_ne (plain : l.IsPlain) (other : ∀ f ∈ files, l ≠ place.child (.plain f.1)) :
    (landedAll v scratch place files).get? l = v.get? l := by
  induction files generalizing v with
  | nil => rfl
  | cons f files ih =>
    rw [landedAll, ih fun g found => other g (List.mem_cons_of_mem _ found), get?_landed plain,
      if_neg (other f List.mem_cons_self)]

/-- Each file stands where it has landed, if no other one has taken its name. -/
theorem get?_landedAll_of_mem (plain : place.IsPlain) (distinct : (files.map (·.1)).Nodup)
    {f : String × ByteArray} (found : f ∈ files) :
    (landedAll v scratch place files).get? (place.child (.plain f.1)) = some (.file f.2) := by
  induction files generalizing v with
  | nil => cases found
  | cons g files ih =>
    rw [List.map_cons, List.nodup_cons] at distinct
    rcases List.mem_cons.mp found with rfl | later
    · have others : ∀ g ∈ files, place.child (.plain f.1) ≠ place.child (.plain g.1) := fun g inside same =>
        distinct.1 (child_injective same ▸ List.mem_map_of_mem inside)
      rw [landedAll, get?_landedAll_of_ne (plain.child f.1) others, get?_landed (plain.child f.1), if_pos rfl]
    · exact ih distinct.2 later

theorem solid_landedAll (plain : l.IsPlain) (solid : Solid v l) : Solid (landedAll v scratch place files) l := by
  induction files generalizing v with
  | nil => exact solid
  | cons f files ih => exact ih (solid_landed plain solid f.2)

theorem within_landedAll (solid : ∀ f ∈ files, Solid v (place.child (.plain f.1))) :
    Within v (landedAll v scratch place files) := by
  intro l here e found way
  rw [get?_landedAll_of_ne here, found]
  rintro f inside rfl
  rw [solid f inside e found] at way
  cases way

theorem Fresh.landedAll (fresh : Fresh v) : Fresh (landedAll v scratch place files) := by
  induction files generalizing v with
  | nil => exact fresh
  | cons f files ih => exact ih (Fresh.landed fresh)

theorem get?_landedAll_again (fresh : Fresh v)
    (there : ∀ f ∈ files, v.get? (place.child (.plain f.1)) = some (.file f.2)) (l : Location) :
    (landedAll v scratch place files).get? l = v.get? l := by
  induction files generalizing v with
  | nil => rfl
  | cons f files ih =>
    rw [List.forall_mem_cons] at there
    have same : ∀ l, (landed v f.1 scratch place f.2).get? l = v.get? l := get?_landed_again fresh there.1
    rw [landedAll, ih (Fresh.landed fresh) fun g found => (same _).trans (there.2 g found), same]

theorem length_putEntry_le (l : Location) (e : Entry) (entries : List (Location × Entry)) :
    (putEntry l e entries).length ≤ entries.length + 1 := by
  induction entries with
  | nil => exact Nat.le_refl _
  | cons d entries ih =>
    rw [putEntry]
    split
    · exact Nat.le_succ _
    · exact Nat.succ_le_succ ih

theorem length_landed_le (v : Volume) (name : String) (scratch place : Location) (bytes : ByteArray) :
    (landed v name scratch place bytes).entries.length ≤ v.entries.length + 3 := by
  have first := length_putEntry_le (scratch.child (.temporary name v.serial)) (.file ByteArray.empty) v.entries
  have second := length_putEntry_le (scratch.child (.temporary name v.serial)) (.file bytes)
    (withTemporary v scratch name).entries
  have rest := List.length_filter_le (fun e : Location × Entry => e.1 ≠ scratch.child (.temporary name v.serial))
    (drafted v name scratch bytes).entries
  have third := length_putEntry_le (place.child (.plain name)) (.file bytes)
    ((drafted v name scratch bytes).erase (scratch.child (.temporary name v.serial))).entries
  simp only [landed, settled, put, erase, drafted, withTemporary] at first second rest third ⊢
  omega

theorem length_landedAll_le (v : Volume) (scratch place : Location) (files : List (String × ByteArray)) :
    (landedAll v scratch place files).entries.length ≤ v.entries.length + 3 * files.length := by
  induction files generalizing v with
  | nil => exact Nat.le_refl _
  | cons f files ih =>
    have here := length_landed_le v f.1 scratch place f.2
    have later := ih (landed v f.1 scratch place f.2)
    rw [landedAll, List.length_cons]
    omega

/-- Two volumes on which files have landed under some names are alike up to these. -/
theorem alike_landedAll {names : List String} (plain : place.IsPlain)
    (solid : ∀ name ∈ names, Solid v (place.child (.plain name))) (inside : ∀ f ∈ files, f.1 ∈ names)
    (inside' : ∀ f ∈ files', f.1 ∈ names) :
    Alike (fun l => ∃ name ∈ names, l = place.child (.plain name)) (landedAll v scratch place files)
      (landedAll v scratch place files') where
  same := by
    intro l here others
    have missed : ∀ files : List (String × ByteArray), (∀ f ∈ files, f.1 ∈ names) →
        (landedAll v scratch place files).get? l = v.get? l := fun files inside =>
      get?_landedAll_of_ne here fun f found same => others ⟨f.1, inside f found, same⟩
    rw [missed files inside, missed files' inside']
  solid := by
    rintro _ ⟨name, found, rfl⟩
    exact solid_landedAll (plain.child name) (solid name found)
  solid' := by
    rintro _ ⟨name, found, rfl⟩
    exact solid_landedAll (plain.child name) (solid name found)

section Room

variable {folder : Path}

theorem Room.landedAll (room : Room v folder scratch place) (slots : ∀ f ∈ files, Slot v folder place f.1) :
    Room (landedAll v scratch place files) folder scratch place := by
  have within : Within v (Artifact.landedAll v scratch place files) :=
    within_landedAll fun f found => (slots f found).solid
  exact ⟨room.drafts.within within, room.there.within within⟩

theorem Slot.landedAll {name : String} (room : Room v folder scratch place) (slot : Slot v folder place name) :
    Slot (landedAll v scratch place files) folder place name :=
  { slot with solid := solid_landedAll (room.there.isPlain.child name) slot.solid }

end Room

end Files

end SiteSurvey.Artifact
