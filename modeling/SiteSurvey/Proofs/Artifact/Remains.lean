import SiteSurvey.Proofs.Artifact.Atomic
import SiteSurvey.Proofs.Volume.Sayable

set_option autoImplicit false

namespace SiteSurvey

namespace Volume

def files (v : Volume) (l : Location) : Option Entry :=
  (v.get? l).filter fun e => !e.isFolder

/-- Where something has changed there was nothing, and now there is a folder where a beginning of a path leads. -/
def Laid (v : Volume) (p : Path) (v' : Volume) : Prop :=
  ∀ l, v'.get? l ≠ v.get? l → v.get? l = none ∧ ∃ names, names <+: p.names ∧ Folder v' { p with names } l

/-- All files are what they were, and only folders for a path are new. -/
structure Paved (v : Volume) (p : Path) (v' : Volume) : Prop where
  files : v'.files = v.files
  folders : Laid v p v'

variable {v v' v'' : Volume} {p : Path}

theorem Laid.paved (folders : Laid v p v') : Paved v p v' := by
  refine ⟨funext fun l => ?_, folders⟩
  by_cases same : v'.get? l = v.get? l
  · rw [files, files, same]
  · obtain ⟨absent, names, _, there⟩ := folders l same
    rw [files, files, absent, there.get?]
    rfl

theorem folder_put {place : Location} (found : v.lookup false p = .ok ⟨place, none⟩) :
    Grown v (v.put place .folder) ∧ v.get? place = none ∧ Folder (v.put place .folder) p place := by
  obtain ⟨askable, entry, left, leads⟩ := lookup_eq_ok_iff.mp found
  have absent : v.get? place = none := entry.symm
  have grown : Grown v (v.put place .folder) := grown_put (leads.isPlain (isPlain_origin p)) absent
  have named : place.names ≠ [] := names_ne_nil_of_get?_ne_folder (v := v) (by simp [absent])
  have here : (v.put place .folder).get? place = some .folder := get?_put_self named
  have reached := (leads.within grown.within (isPlain_origin p) (by simp)).passing (by simp [here])
  exact ⟨grown, absent, lookup_eq_ok_iff.mpr ⟨askable, here.symm, left, reached⟩⟩

theorem paved_ensureFolders (v : Volume) (p : Path) (system : System) :
    Paved v p (outcome (ensureFolders p system) v).2 := by
  suffices related : Grown v (outcome (ensureFolders p system) v).2 ∧ Laid v p _ from related.2.paved
  refine ensureFolders_related (R := fun v v' => Grown v v' ∧ Laid v p v') ?_ ?_ p ?_ system v
  · exact fun v => ⟨.refl v, fun l changed => absurd rfl changed⟩
  · -- A folder that is there already stays where the names lead, since more folders block no way.
    rintro v v' v'' ⟨grown, folders⟩ ⟨grown', folders'⟩
    refine ⟨grown.trans grown', fun l changed => ?_⟩
    by_cases same : v'.get? l = v.get? l
    · rw [← same] at changed ⊢
      exact folders' l changed
    · obtain ⟨absent, names, begin_, there⟩ := folders l same
      exact ⟨absent, names, begin_, there.within grown'.within⟩
  · rintro v ⟨anchor, names⟩ place rfl begin_ found
    obtain ⟨grown, absent, there⟩ := folder_put found
    refine ⟨grown, fun l changed => ?_⟩
    obtain rfl : l = place := Classical.byContradiction fun other => changed (get?_put_of_ne other)
    exact ⟨absent, names, begin_, there⟩

theorem Paved.congr (paved : Paved v p v') (same : ∀ l, v''.get? l = v'.get? l) : Paved v p v'' := by
  refine Laid.paved fun l changed => ?_
  rw [same] at changed
  obtain ⟨absent, names, begin_, there⟩ := paved.folders l changed
  exact ⟨absent, names, begin_, there.within fun l _ e found _ => (same l).trans found⟩

end Volume

namespace Artifact

open Volume

/-- Folders have been made for a path, and one temporary file has come to stand beside its end. -/
def Littered (v : Volume) (p : Path) (v' : Volume) : Prop :=
  ∃ ready scratch serial bytes, Paved v p.parent ready ∧ Folder ready (straight p.parent) scratch ∧
    v.get? (scratch.child (.temporary p.name serial)) = none ∧
    ∀ l, v'.get? l = if l = scratch.child (.temporary p.name serial) then some (.file bytes) else ready.get? l

/-- What a failed write comes to, by the failure. Only the first is what a failed write is meant to come to: the
failure names the path, and all files are what they were. -/
inductive Aftermath (v : Volume) (p : Path) (content : Text) (system : System) : Failure → Volume → Prop where
  | tidy {v' : Volume} (t : Trouble) (paved : Paved v p.parent v') :
      Aftermath v p content system
        (.unwritable p.toString ("Failed to write " ++ p.toString ++ ": " ++ t.message)) v'
  | unsayable {v' : Volume} (null : p.names.all isNullFree = false) (paved : Paved v p.parent v') :
      Aftermath v p content system (.badValue "embedded null byte") v'
  | unencodable {v' : Volume} {message : Text} (half : content.hasSurrogate = true) (littered : Littered v p v') :
      Aftermath v p content system (.unencodable message) v'
  | undeleted {v' : Volume} {t : Trouble} (refused : system.refusal .discard ≠ none) (littered : Littered v p v') :
      Aftermath v p content system (unwritable p t) v'

section Aftermath

variable {v v' ready : Volume} {p : Path} {content : Text} {system : System} {scratch : Location} {t : Trouble}

theorem aftermath_of_paved (said : p.names.all isNullFree = true → t.fault ≠ .nullByte)
    (paved : Paved v p.parent v') : Aftermath v p content system (unwritable p t) v' := by
  by_cases null : t.fault = .nullByte
  · have unclean : p.names.all isNullFree = false := Bool.eq_false_iff.mpr fun clean => said clean null
    rw [unwritable, if_pos null, Failure.ofTrouble, if_pos null, Trouble.message, null]
    exact .unsayable unclean paved
  · rw [unwritable, if_neg null]
    exact .tidy t paved

theorem littered_drafted {bytes : ByteArray} (fresh : Fresh v)
    (made : outcome (ensureFolders p.parent system) v = (.ok (), ready))
    (room : Folder ready (straight p.parent) scratch)
    (draft : v'.get? (scratch.child (.temporary p.name ready.serial)) = some (.file bytes))
    (others : ∀ l, l ≠ scratch.child (.temporary p.name ready.serial) → v'.get? l = ready.get? l) :
    Littered v p v' := by
  have paved := paved_ensureFolders v p.parent system
  rw [made] at paved
  have late : v.serial ≤ ready.serial := Nat.le_of_eq (grown_of_made made).serial.symm
  refine ⟨ready, scratch, ready.serial, bytes, paved, room, fresh scratch p.name _ late, fun l => ?_⟩
  split
  · next same => rw [same, draft]
  · next other => exact others l other

theorem paved_discard {part : ByteArray} (fresh : Fresh v)
    (made : outcome (ensureFolders p.parent system) v = (.ok (), ready)) (willing : system.refusal .discard = none) :
    Paved v p.parent
      ((drafted ready p.name scratch part).discard (scratch.child (.temporary p.name ready.serial)) system) := by
  have paved := paved_ensureFolders v p.parent system
  rw [made] at paved
  refine paved.congr fun l => ?_
  by_cases same : l = scratch.child (.temporary p.name ready.serial)
  · -- The place of the temporary file was free before, and is free again.
    have free := fresh.grown (grown_of_made made) scratch p.name ready.serial (Nat.le_refl _)
    rw [same, discard_willing willing, get?_erase_self (child_names_ne_nil _ _), free]
  · exact (get?_discard_of_ne same).trans (get?_drafted_of_ne same)

theorem Course.aftermath {f : Failure} (course : Course v p content system (.error f) v') (fresh : Fresh v)
    (own : system.Own) : Aftermath v p content system f v' := by
  cases course with
  | unready failed =>
    exact aftermath_of_paved (fun clean => sayable_prepare own clean _ _ failed) (paved_ensureFolders _ _ _)
  | broken half made room =>
    -- This failure is none that the temporary file is taken away for.
    exact .unencodable half (littered_drafted fresh made room (get?_put_self (child_names_ne_nil _ _)) fun l other =>
      get?_put_of_ne other)
  | stopped made room failed =>
    by_cases willing : system.refusal .discard = none
    · exact aftermath_of_paved (fun clean => sayable_deliver own clean _ _ _ _ _ failed)
        (paved_discard fresh made willing)
    · rw [discard_refused willing]
      exact .undeleted willing (littered_drafted fresh made room (get?_put_self (child_names_ne_nil _ _))
        fun l other => get?_drafted_of_ne other)

end Aftermath

end Artifact

end SiteSurvey
