import SiteSurvey.Proofs.Outcome
import SiteSurvey.Proofs.Volume.Lookup

set_option autoImplicit false

namespace SiteSurvey.Volume

theorem names_ne_nil_of_get?_ne_folder {v : Volume} {l : Location} (other : v.get? l ≠ some .folder) :
    l.names ≠ [] := by
  intro empty
  apply other
  simp [get?, empty]

theorem get?_put_of_ne {v : Volume} {l k : Location} {e : Entry} (other : k ≠ l) :
    (v.put l e).get? k = v.get? k := by
  by_cases named : k.names = []
  · simp [get?, named]
  · rw [get?_put v l k e named, if_neg other]

theorem get?_put_self {v : Volume} {l : Location} {e : Entry} (named : l.names ≠ []) :
    (v.put l e).get? l = some e := by
  rw [get?_put v l l e named, if_pos rfl]

theorem get?_erase_of_ne {v : Volume} {l k : Location} (other : k ≠ l) :
    (v.erase l).get? k = v.get? k := by
  have found : ∀ entries : List (Location × Entry),
      (entries.filter fun e => e.1 ≠ l).find? (fun e => e.1 = k) = entries.find? fun e => e.1 = k := by
    intro entries
    rw [List.find?_filter]
    congr 1
    funext e
    by_cases same : e.1 = k
    · simp [same, other]
    · simp [same]
  simp only [get?, erase, found]

theorem get?_erase_self {v : Volume} {l : Location} (named : l.names ≠ []) : (v.erase l).get? l = none := by
  simp [get?, erase, named]

/-- A volume with more folders. -/
structure Grown (v v' : Volume) : Prop where
  serial : v'.serial = v.serial
  entries : ∃ added : List Location, v'.entries = v.entries ++ added.map (fun l => (l, .folder)) ∧
    ∀ l ∈ added, l.IsPlain ∧ v.get? l = none

namespace Grown

variable {v v' v'' : Volume}

theorem refl (v : Volume) : Grown v v where
  serial := rfl
  entries := ⟨[], by simp, by simp⟩

theorem get? (grown : Grown v v') (l : Location) :
    v'.get? l = v.get? l ∨ l.IsPlain ∧ v.get? l = none ∧ v'.get? l = some .folder := by
  obtain ⟨added, entries, plain⟩ := grown.entries
  by_cases named : l.names.isEmpty = true
  · simp [Volume.get?, named]
  · simp only [Volume.get?, named, entries, List.find?_append, Bool.false_eq_true, if_false]
    -- The old entries come first, so that a folder that was added shows only where there was none of them.
    cases v.entries.find? fun e => e.1 = l with
    | some e => simp
    | none =>
      cases found : (added.map fun l => (l, Entry.folder)).find? fun e => e.1 = l with
      | none => simp
      | some e =>
        right
        obtain ⟨k, new, rfl⟩ := List.mem_map.mp (List.mem_of_find?_eq_some found)
        obtain rfl : k = l := by simpa using List.find?_some found
        exact ⟨(plain k new).1, rfl, rfl⟩

theorem get?_of_some (grown : Grown v v') {l : Location} {e : Entry} (found : v.get? l = some e) :
    v'.get? l = some e := by
  rcases grown.get? l with same | ⟨_, absent, _⟩
  · rw [same, found]
  · simp [found] at absent

theorem within (grown : Grown v v') : Within v v' :=
  fun _ _ _ found _ => grown.get?_of_some found

theorem trans (first : Grown v v') (second : Grown v' v'') : Grown v v'' := by
  obtain ⟨added, entries, absent⟩ := first.entries
  obtain ⟨added', entries', absent'⟩ := second.entries
  refine ⟨second.serial.trans first.serial, added ++ added', ?_, ?_⟩
  · rw [entries', entries]
    simp
  · intro l found
    rcases List.mem_append.mp found with before | after
    · exact absent l before
    · rcases first.get? l with same | ⟨plain, none, _⟩
      · rw [← same]
        exact absent' l after
      · exact ⟨plain, none⟩

end Grown

theorem putEntry_new {l : Location} {e : Entry} {entries : List (Location × Entry)}
    (new : ∀ d ∈ entries, d.1 ≠ l) : putEntry l e entries = entries ++ [(l, e)] := by
  induction entries with
  | nil => rfl
  | cons d rest ih =>
    rw [putEntry, if_neg (new d List.mem_cons_self), ih fun d found => new d (List.mem_cons_of_mem _ found)]
    rfl

theorem not_mem_of_get?_none {v : Volume} {l : Location} (absent : v.get? l = none) :
    ∀ d ∈ v.entries, d.1 ≠ l := by
  have named := names_ne_nil_of_get?_ne_folder (v := v) (l := l) (by simp [absent])
  simp only [get?, List.isEmpty_iff, named, if_false, Option.map_eq_none_iff, List.find?_eq_none] at absent
  exact fun d found same => absent d found (by simp [same])

theorem grown_put {v : Volume} {l : Location} (plain : l.IsPlain) (absent : v.get? l = none) :
    Grown v (v.put l .folder) := by
  refine ⟨rfl, [l], ?_, by simp [plain, absent]⟩
  simp only [put, putEntry_new (not_mem_of_get?_none absent)]
  rfl

section Folders

variable {v v' : Volume} {p : Path}

theorem outcome_heed_none (path : String) (v : Volume) : outcome (heed none path) v = (.ok (), v) := rfl

theorem outcome_makeFolder (v : Volume) (p : Path) :
    outcome (makeFolder p) v =
      match v.lookup false p with
      | .error fault => (.error (.at_ fault p.toString), v)
      | .ok s =>
          match s.entry with
          | some _ => (.error (.at_ .present p.toString), v)
          | none => (.ok (), v.put s.place .folder) := by
  rw [makeFolder, outcome_bind_ok (outcome_heed_none _ _), outcome_bind, outcome_ask]
  cases v.lookup false p with
  | error fault => rfl
  | ok s =>
    obtain ⟨place, entry⟩ := s
    cases entry <;> rfl

def excused (v : Volume) (p : Path) (fault : VolumeFault) : Except Trouble Unit :=
  match v.isFolder p with
  | .ok true => .ok ()
  | .ok false => .error (.at_ fault p.toString)
  | .error other => .error (.at_ other p.toString)

theorem outcome_ensureFolder (v : Volume) (p : Path) :
    outcome (ensureFolder p) v =
      match v.lookup false p with
      | .error .missing => (.error (.at_ .missing p.toString), v)
      | .error fault => (excused v p fault, v)
      | .ok s =>
          match s.entry with
          | some _ => (excused v p .present, v)
          | none => (.ok (), v.put s.place .folder) := by
  -- Every fault but a missing folder above is excused by a folder that is there already.
  have handled : ∀ fault : VolumeFault, fault ≠ .missing →
      outcome (if fault = .missing then throw (Trouble.at_ fault p.toString) else do
        heed none p.toString
        if !(← ask p fun v => v.isFolder p) then throw (Trouble.at_ fault p.toString) : Change Unit) v =
          (excused v p fault, v) := by
    intro fault other
    rw [if_neg other, outcome_bind_ok (outcome_heed_none _ _), outcome_bind, outcome_ask, excused]
    cases v.isFolder p with
    | error other => rfl
    | ok b => cases b <;> rfl
  rw [ensureFolder]
  cases found : v.lookup false p with
  | ok s =>
    obtain ⟨place, entry⟩ := s
    cases entry with
    | none => exact outcome_tryCatch_ok (by rw [System.willing, outcome_makeFolder, found])
    | some e =>
      have failed : outcome (makeFolder p) v = (.error (.at_ .present p.toString), v) := by
        rw [outcome_makeFolder, found]
      exact (outcome_tryCatch_error failed).trans (handled .present (by decide))
  | error fault =>
    have failed : outcome (makeFolder p) v = (.error (.at_ fault p.toString), v) := by
      rw [outcome_makeFolder, found]
    refine (outcome_tryCatch_error failed).trans ?_
    by_cases missing : fault = .missing
    · subst missing
      rfl
    · refine (handled fault missing).trans ?_
      cases fault with
      | missing => exact absurd rfl missing
      | _ => rfl

theorem outcome_ensureFolders_refused (v : Volume) (p : Path) (system : System) :
    outcome (ensureFolders p system) v =
      match outcome (ensureFolder p false system) v with
      | (.ok (), v') => (.ok (), v')
      | (.error t, v') =>
          if t.fault = .missing ∧ p.names ≠ [] then
            outcome (do
              ensureFolders p.parent system
              ensureFolder p true system) v'
          else (.error t, v') := by
  rw [ensureFolders, outcome_tryCatch]
  cases outcome (ensureFolder p false system) v with
  | mk r v' =>
    cases r with
    | ok _ => rfl
    | error t =>
      by_cases above : t.fault = .missing ∧ p.names ≠ []
      · simp only [dif_pos above, if_pos above]
      · simp only [dif_neg above, if_neg above]
        rfl

theorem outcome_ensureFolders (v : Volume) (p : Path) :
    outcome (ensureFolders p) v =
      match outcome (ensureFolder p) v with
      | (.ok (), v') => (.ok (), v')
      | (.error t, v') =>
          if t.fault = .missing ∧ p.names ≠ [] then
            outcome (do
              ensureFolders p.parent
              ensureFolder p) v'
          else (.error t, v') :=
  outcome_ensureFolders_refused v p .willing

theorem state_makeFolder (v : Volume) (p : Path) (refusal : Option VolumeFault) :
    (outcome (makeFolder p refusal) v).2 = v ∨
      ∃ place, v.lookup false p = .ok ⟨place, none⟩ ∧
        outcome (makeFolder p refusal) v = (.ok (), v.put place .folder) := by
  cases refusal with
  | some fault => exact .inl rfl
  | none =>
    rw [outcome_makeFolder]
    cases v.lookup false p with
    | error fault => exact .inl rfl
    | ok s =>
      obtain ⟨place, entry⟩ := s
      cases entry with
      | some e => exact .inl rfl
      | none => exact .inr ⟨place, rfl, rfl⟩

theorem state_ensureFolder (v : Volume) (p : Path) (again : Bool) (system : System) :
    (outcome (ensureFolder p again system) v).2 =
      (outcome (makeFolder p (system.refusal (.makeFolder p again))) v).2 := by
  -- What is done about a fault is a look, which changes nothing.
  have excuse : ∀ (t : Trouble) (v : Volume),
      (outcome (if t.fault = .missing then throw t else do
        heed (system.refusal (.seeFolder p again)) p.toString
        if !(← ask p fun v => v.isFolder p) then throw t : Change Unit) v).2 = v := by
    intro t v
    by_cases missing : t.fault = .missing
    · rw [if_pos missing]
      rfl
    · rw [if_neg missing, outcome_bind]
      cases system.refusal (.seeFolder p again) with
      | some fault => rfl
      | none =>
        simp only [outcome_heed_none]
        rw [outcome_bind, outcome_ask]
        cases v.isFolder p with
        | error other => rfl
        | ok b => cases b <;> rfl
  rw [ensureFolder, outcome_tryCatch]
  cases outcome (makeFolder p (system.refusal (.makeFolder p again))) v with
  | mk r v' =>
    cases r with
    | ok _ => rfl
    | error t => exact excuse t v'

/-- What holds of a volume and itself, is passed on, and holds whenever a folder is made on the way to a path,
holds before and after all folders to the path are made, as far as the system lets them. -/
theorem ensureFolders_related {R : Volume → Volume → Prop} (refl : ∀ v, R v v)
    (trans : ∀ {v v' v''}, R v v' → R v' v'' → R v v'') (p : Path)
    (step : ∀ v q place, q.anchor = p.anchor → q.names <+: p.names → v.lookup false q = .ok ⟨place, none⟩ →
      R v (v.put place .folder))
    (system : System) (v : Volume) : R v (outcome (ensureFolders p system) v).2 := by
  have single : ∀ (v : Volume) (q : Path) (again : Bool), q.anchor = p.anchor → q.names <+: p.names →
      R v (outcome (ensureFolder q again system) v).2 := by
    intro v q again same inside
    rw [state_ensureFolder]
    rcases state_makeFolder v q (system.refusal (.makeFolder q again)) with same' | ⟨place, free, made⟩
    · rw [same']
      exact refl v
    · rw [made]
      exact step v q place same inside free
  -- The induction is on the path that is left, which is a beginning of the whole one.
  have all : ∀ n (q : Path), q.names.length = n → q.anchor = p.anchor → q.names <+: p.names → ∀ v,
      R v (outcome (ensureFolders q system) v).2 := by
    intro n
    induction n with
    | zero =>
      intro q size same inside v
      have first := single v q false same inside
      rw [outcome_ensureFolders_refused]
      cases tried : outcome (ensureFolder q false system) v with
      | mk r v' =>
        rw [tried] at first
        cases r with
        | ok _ => exact first
        | error t => simpa only [List.length_eq_zero_iff.mp size, ne_eq, not_true, and_false, if_false] using first
    | succ n ih =>
      intro q size same inside v
      have first := single v q false same inside
      rw [outcome_ensureFolders_refused]
      cases tried : outcome (ensureFolder q false system) v with
      | mk r v' =>
        rw [tried] at first
        cases r with
        | ok _ => exact first
        | error t =>
          dsimp only
          split
          · have above := ih q.parent (by simp [Path.parent, size]) same
              ((List.dropLast_prefix _).trans inside) v'
            rw [outcome_bind]
            cases made : outcome (ensureFolders q.parent system) v' with
            | mk r v'' =>
              rw [made] at above
              cases r with
              | ok _ => exact trans (trans first above) (single v'' q true same inside)
              | error t => exact trans first above
          · exact first
  exact all _ p rfl rfl (List.prefix_refl _) v

/-- Making a folder and those above it only adds folders, whether or not it succeeds. -/
theorem grown_ensureFolders (v : Volume) (p : Path) (system : System := .willing) :
    Grown v (outcome (ensureFolders p system) v).2 := by
  refine ensureFolders_related .refl .trans p ?_ system v
  intro v q place _ _ free
  obtain ⟨_, entry, _, leads⟩ := lookup_eq_ok_iff.mp free
  exact grown_put (leads.isPlain (isPlain_origin q)) entry.symm

theorem ensureFolder_of_folder {place : Location} (folder : Folder v p place) :
    outcome (ensureFolder p) v = (.ok (), v) := by
  have isFolder : v.isFolder p = .ok true := by
    rw [isFolder, holds, folder]
    rfl
  obtain ⟨askable, entry, left, leads⟩ := lookup_eq_ok_iff.mp folder
  obtain ⟨left', q, stopping, present⟩ := leads.stopping (by simp [← entry])
  have found : v.lookup false p = .ok { place := q, entry := v.get? q } :=
    lookup_eq_ok_iff.mpr ⟨askable, rfl, left', stopping⟩
  rw [outcome_ensureFolder, found]
  cases here : v.get? q with
  | none => exact absurd here present
  | some e => simp only [excused, isFolder]

theorem ensureFolders_of_folder {place : Location} (folder : Folder v p place) :
    outcome (ensureFolders p) v = (.ok (), v) := by
  rw [outcome_ensureFolders, ensureFolder_of_folder folder]

theorem folder_of_excused {fault : VolumeFault} (other : fault ≠ .missing)
    (single : outcome (ensureFolder p) v = (excused v p fault, v))
    (made : outcome (ensureFolders p) v = (.ok (), v')) : ∃ place, Folder v p place := by
  rw [outcome_ensureFolders, single, excused] at made
  cases answer : v.isFolder p with
  | ok b =>
    cases b with
    | true => exact isFolder_eq_true_iff.mp answer
    | false => simp [answer, Trouble.at_, other] at made
  | error fault' =>
    have present := (holds_error answer).1
    have other' : fault' ≠ .missing := by
      rintro rfl
      simp [VolumeFault.meansAbsent] at present
    simp [answer, Trouble.at_, other'] at made

/-- A folder can only be made where a path leads to it already, to nothing, or not even to the folder
above. -/
theorem lookup_of_ensureFolders (made : outcome (ensureFolders p) v = (.ok (), v')) :
    (∃ place, Folder v p place) ∨ (∃ place, v.lookup true p = .ok { place, entry := none }) ∨
      v.lookup true p = .error .missing := by
  cases found : v.lookup false p with
  | ok s =>
    cases absent : s.entry with
    | none =>
      right
      left
      refine ⟨s.place, ?_⟩
      rw [lookup_passing found (by simp [absent]), ← absent]
    | some e =>
      left
      have single : outcome (ensureFolder p) v = (excused v p .present, v) := by
        rw [outcome_ensureFolder, found]
        simp only [absent]
      exact folder_of_excused (by decide) single made
  | error fault =>
    by_cases missing : fault = .missing
    · subst missing
      exact .inr (.inr (lookup_through_error found))
    · left
      refine folder_of_excused missing ?_ made
      rw [outcome_ensureFolder, found]
      cases fault with
      | missing => exact absurd rfl missing
      | _ => rfl

end Folders

def withTemporary (v : Volume) (scratch : Location) (stem : String) : Volume :=
  { v.put (scratch.child (.temporary stem v.serial)) (.file ByteArray.empty) with serial := v.serial + 1 }

theorem outcome_makeTemporary {v : Volume} {folder : Path} {stem : String} {scratch : Location}
    (nullFree : stem.toList.contains '\x00' = false) (fits : stem.utf8ByteSize + temporaryExtra ≤ maxName)
    (there : Folder v (straight folder) scratch) :
    ∃ text, outcome (makeTemporary folder stem) v =
      (.ok (scratch.child (.temporary stem v.serial), text), withTemporary v scratch stem) := by
  refine ⟨(straight folder / (Name.temporary stem v.serial).text).toString, ?_⟩
  have found : v.lookup true (straight folder) = .ok { place := scratch, entry := some .folder } := there
  rw [makeTemporary, outcome_bind_ok outcome_get]
  simp only [nullFree, Bool.false_eq_true, if_false, Nat.not_lt.mpr fits, found]
  rfl

theorem outcome_fill (v : Volume) (place : Location) (bytes : ByteArray) :
    outcome (fill place bytes) v = (.ok (), v.put place (.file bytes)) := rfl

theorem fill_cases (v : Volume) (place : Location) (bytes : ByteArray) (system : System) :
    (∃ t part, outcome (fill place bytes system) v = (.error t, v.put place (.file part))) ∨
      outcome (fill place bytes system) v = (.ok (), v.put place (.file bytes)) := by
  unfold fill
  cases system.refusal .fill with
  | none => exact .inr rfl
  | some fault => exact .inl ⟨_, _, rfl⟩

theorem discard_willing {system : System} (willing : system.refusal .discard = none) (v : Volume) (place : Location) :
    v.discard place system = v.erase place := by
  unfold discard
  simp [willing]

theorem discard_refused {system : System} (refused : system.refusal .discard ≠ none) (v : Volume) (place : Location) :
    v.discard place system = v := by
  unfold discard
  simp [refused]

theorem get?_discard_of_ne {v : Volume} {place l : Location} {system : System} (other : l ≠ place) :
    (v.discard place system).get? l = v.get? l := by
  unfold discard
  split
  · exact get?_erase_of_ne other
  · rfl

theorem serial_discard (v : Volume) (place : Location) (system : System) :
    (v.discard place system).serial = v.serial := by
  unfold discard
  split <;> rfl

theorem outcome_move {v : Volume} {source : Location} {sourceText : String} {p : Path}
    (named : (p.names.isEmpty || p.name == "..") = false) :
    outcome (move source sourceText p) v =
      match v.lookup false p with
      | .error fault => (.error { fault, path := some sourceText, target := some p.toString }, v)
      | .ok s =>
          match s.entry, v.get? source with
          | some .folder, _ => (.error { fault := .isFolder, path := some sourceText, target := some p.toString }, v)
          | _, some e => (.ok (), (v.erase source).put s.place e)
          | _, none => (.error { fault := .missing, path := some sourceText, target := some p.toString }, v) := by
  have heeded : outcome ((none : Option VolumeFault).forM fun fault =>
      (throw { fault, path := some sourceText, target := some p.toString } : Change Unit)) v = (.ok (), v) := rfl
  rw [move, outcome_bind_ok heeded]
  simp only [named, Bool.false_eq_true, if_false]
  rw [outcome_bind_ok outcome_get]
  cases v.lookup false p with
  | error fault => rfl
  | ok s =>
    obtain ⟨place, entry⟩ := s
    cases entry with
    | none => cases v.get? source <;> rfl
    | some e => cases e <;> cases v.get? source <;> rfl

/-- A move either changes nothing, or it puts what it moves in place of something that is no folder. -/
theorem move_cases (v : Volume) (source : Location) (text : String) (p : Path) (refusal : Option VolumeFault) :
    (∃ t, outcome (move source text p refusal) v = (.error t, v)) ∨
      ∃ s e, v.lookup false p = .ok s ∧ s.entry ≠ some .folder ∧ v.get? source = some e ∧
        outcome (move source text p refusal) v = (.ok (), (v.erase source).put s.place e) := by
  cases refusal with
  | some fault => exact .inl ⟨_, rfl⟩
  | none =>
    by_cases named : (p.names.isEmpty || p.name == "..") = true
    · refine .inl ⟨{ fault := .busy, path := some text, target := some p.toString }, ?_⟩
      rw [move]
      simp only [named, if_true]
      rfl
    · rw [outcome_move (by simpa using named)]
      cases v.lookup false p with
      | error fault => exact .inl ⟨_, rfl⟩
      | ok s =>
        obtain ⟨place, entry⟩ := s
        cases present : v.get? source with
        | none =>
          cases entry with
          | none => exact .inl ⟨_, rfl⟩
          | some d => cases d <;> exact .inl ⟨_, rfl⟩
        | some e =>
          cases entry with
          | none => exact .inr ⟨_, e, rfl, by simp, rfl, rfl⟩
          | some d =>
            cases d with
            | folder => exact .inl ⟨_, rfl⟩
            | _ => exact .inr ⟨_, e, rfl, by simp, rfl, rfl⟩

/-- A text that is put into a file, which is then moved, either takes the place of something that is no folder,
or it gets no further than the file. -/
theorem deliver_cases (v : Volume) {source : Location} (named : source.names ≠ []) (text : String) (p : Path)
    (bytes : ByteArray) (system : System) :
    (∃ t part, outcome (do
        fill source bytes system
        move source text p (system.refusal .move)) v = (.error t, v.put source (.file part))) ∨
      ∃ s, (v.put source (.file bytes)).lookup false p = .ok s ∧ s.entry ≠ some .folder ∧
        outcome (do
          fill source bytes system
          move source text p (system.refusal .move)) v =
            (.ok (), ((v.put source (.file bytes)).erase source).put s.place (.file bytes)) := by
  rcases fill_cases v source bytes system with ⟨t, part, failed⟩ | filled
  · exact .inl ⟨t, part, outcome_bind_error failed⟩
  · rcases move_cases (v.put source (.file bytes)) source text p (system.refusal .move) with
      ⟨t, failed⟩ | ⟨s, e, found, free, present, moved⟩
    · exact .inl ⟨t, bytes, (outcome_bind_ok filled).trans failed⟩
    · rw [get?_put_self named] at present
      cases present
      exact .inr ⟨s, found, free, (outcome_bind_ok filled).trans moved⟩

theorem makeTemporary_cases (v : Volume) (folder : Path) (stem : String) (refusal : Option VolumeFault) :
    (∃ t, outcome (makeTemporary folder stem refusal) v = (.error t, v)) ∨
      ∃ scratch text, stem.utf8ByteSize + temporaryExtra ≤ maxName ∧ Folder v (straight folder) scratch ∧
        outcome (makeTemporary folder stem refusal) v =
          (.ok (scratch.child (.temporary stem v.serial), text), withTemporary v scratch stem) := by
  cases refusal with
  | some fault => exact .inl ⟨_, rfl⟩
  | none =>
    by_cases null : stem.toList.contains '\x00' = true
    · refine .inl ⟨.at_ .nullByte (straight folder / (Name.temporary stem v.serial).text).toString, ?_⟩
      rw [makeTemporary, outcome_bind_ok outcome_get, outcome_bind_ok (outcome_heed_none _ _)]
      simp only [null, if_true]
      rfl
    · by_cases long : maxName < stem.utf8ByteSize + temporaryExtra
      · refine .inl ⟨.at_ .nameTooLong (straight folder / (Name.temporary stem v.serial).text).toString, ?_⟩
        rw [makeTemporary, outcome_bind_ok outcome_get, outcome_bind_ok (outcome_heed_none _ _)]
        simp only [null, long, if_true]
        rfl
      · rw [makeTemporary, outcome_bind_ok outcome_get, outcome_bind_ok (outcome_heed_none _ _)]
        simp only [null, long, if_false]
        cases found : v.lookup true (straight folder) with
        | error fault => exact .inl ⟨_, rfl⟩
        | ok s =>
          obtain ⟨scratch, entry⟩ := s
          cases entry with
          | none => exact .inl ⟨_, rfl⟩
          | some e =>
            cases e with
            | folder => exact .inr ⟨scratch, _, Nat.not_lt.mp long, found, rfl⟩
            | _ => exact .inl ⟨_, rfl⟩

end SiteSurvey.Volume
