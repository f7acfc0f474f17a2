import SiteSurvey.Proofs.Volume.Alike
import SiteSurvey.Proofs.Volume.Sound

set_option autoImplicit false

namespace SiteSurvey.Volume

section Faults

variable {v : Volume} {links : Nat} {place : Location} {xs ys : List String} {fault : VolumeFault}

theorem walk_fault {through : Bool} (failed : v.walk through links place xs = .error fault) :
    fault.meansAbsent = true ∨ fault = .nameTooLong := by
  have stops : ∀ fault, VolumeFault.IsStop fault → fault.meansAbsent = true := by
    rintro fault (rfl | rfl) <;> rfl
  induction links, place, xs using walk_induction v through with
  | nil => simp [walk_nil] at failed
  | blocked links place name rest other =>
    have stopped : ∃ stop, VolumeFault.IsStop stop ∧ v.walk through links place (name :: rest) = .error stop :=
      walk_of_not_folder other
    obtain ⟨stop, isStop, stopped⟩ := stopped
    rw [stopped] at failed
    cases failed
    exact .inl (stops _ isStop)
  | up links place rest folder ih =>
    rw [walk_up folder] at failed
    exact ih failed
  | tooLong links place name rest folder proper long =>
    rw [walk_tooLong folder proper long] at failed
    cases failed
    exact .inr rfl
  | absent links place name rest folder proper fits none =>
    rw [walk_absent folder proper fits none] at failed
    split at failed <;> cases failed
    exact .inl rfl
  | linkEnd links place name target folder proper fits link last =>
    subst last
    rw [walk_linkEnd folder proper fits link] at failed
    cases failed
  | noLinks place name rest target folder proper fits link goes =>
    rw [walk_noLinks folder proper fits link goes] at failed
    cases failed
    exact .inl rfl
  | follow links place name rest target folder proper fits link goes ih =>
    rw [walk_link folder proper fits link goes] at failed
    exact ih failed
  | down links place name rest e folder proper fits entry solid ih =>
    rw [walk_down folder proper fits entry solid] at failed
    exact ih failed

theorem lookup_fault {through : Bool} {p : Path} (failed : v.lookup through p = .error fault) :
    fault.meansAbsent = true ∨ fault = .nameTooLong := by
  unfold lookup at failed
  split at failed
  · cases failed
    exact .inl rfl
  · split at failed
    · cases failed
      exact .inr rfl
    · exact walk_fault failed

theorem walk_append_error (failed : v.walk true links place xs = .error fault) :
    v.walk true links place (xs ++ ys) = .error fault := by
  induction links, place, xs using walk_induction v true with
  | nil => simp [walk_nil] at failed
  | blocked links place name rest other =>
    cases entry : v.get? place with
    | none =>
      rw [walk_missing entry] at failed
      rw [List.cons_append, walk_missing entry, failed]
    | some e =>
      have solid := isFolder_eq_false entry other
      rw [walk_blocked e entry solid] at failed
      rw [List.cons_append, walk_blocked e entry solid, failed]
  | up links place rest folder ih =>
    rw [walk_up folder] at failed
    rw [List.cons_append, walk_up folder, ih failed]
  | tooLong links place name rest folder proper long =>
    rw [walk_tooLong folder proper long] at failed
    rw [List.cons_append, walk_tooLong folder proper long, failed]
  | absent links place name rest folder proper fits none =>
    rw [walk_absent folder proper fits none] at failed
    rw [List.cons_append, walk_absent folder proper fits none]
    cases rest with
    | nil => cases failed
    | cons next rest => exact failed
  | linkEnd links place name target folder proper fits link last => cases last
  | noLinks place name rest target folder proper fits link goes =>
    rw [walk_noLinks folder proper fits link goes] at failed
    rw [List.cons_append, walk_noLinks folder proper fits link (.inr rfl), failed]
  | follow links place name rest target folder proper fits link goes ih =>
    rw [walk_link folder proper fits link goes] at failed
    rw [List.cons_append, walk_link folder proper fits link (.inr rfl), ← List.append_assoc, ih failed]
  | down links place name rest e folder proper fits entry solid ih =>
    rw [walk_down folder proper fits entry solid] at failed
    rw [List.cons_append, walk_down folder proper fits entry solid, ih failed]

end Faults

/-- Ends of walks from which no walk goes on. -/
structure Barren (dud : Except VolumeFault Spot → Prop) : Prop where
  absent : ∀ fault, fault.meansAbsent = true → dud (.error fault)
  noFolder : ∀ s, dud (.ok s) → s.entry ≠ some .folder

/-- What stands under a name in a folder, and what it leads to if it is a link, is of some kind. -/
structure EndsIn (dud : Except VolumeFault Spot → Prop) (v : Volume) (place : Location) (name : String) : Prop where
  entry : dud (.ok { place := place.child (.plain name), entry := v.get? (place.child (.plain name)) })
  target : ∀ links target, v.get? (place.child (.plain name)) = some (.link target) →
    dud (v.walk true links (aim place target) target.names)

def IsAbsent (r : Except VolumeFault Spot) : Prop :=
  r = .error .missing ∨ ∃ place, r = .ok { place, entry := none }

theorem not_isAbsent_some {place : Location} {e : Entry} : ¬IsAbsent (.ok { place, entry := some e }) := by
  rintro (missing | ⟨_, empty⟩)
  · cases missing
  · cases empty

section Erasure

variable {dud : Except VolumeFault Spot → Prop} {v : Volume} {place : Location} {name : String}

theorem Barren.of_not_folder (barren : Barren dud) {through : Bool} {links : Nat} {here : Location}
    {names : List String} (other : v.get? here ≠ some .folder) (more : names ≠ []) :
    dud (v.walk through links here names) := by
  obtain ⟨first, rest, rfl⟩ := List.exists_cons_of_ne_nil more
  have stopped : ∃ stop, VolumeFault.IsStop stop ∧ v.walk through links here (first :: rest) = .error stop :=
    walk_of_not_folder other
  obtain ⟨stop, isStop, stopped⟩ := stopped
  rw [stopped]
  rcases isStop with rfl | rfl <;> exact barren.absent _ rfl

theorem Barren.append (barren : Barren dud) {links : Nat} {here : Location} {xs : List String}
    (ends : dud (v.walk true links here xs)) (ys : List String) : dud (v.walk true links here (xs ++ ys)) := by
  by_cases more : ys = []
  · rw [more, List.append_nil]
    exact ends
  · cases walked : v.walk true links here xs with
    | error fault =>
      rw [walk_append_error walked, ← walked]
      exact ends
    | ok s =>
      rw [walked] at ends
      obtain ⟨entry, left, leads⟩ := leads_of_walk walked
      rw [walk_append leads more]
      exact barren.of_not_folder (entry ▸ barren.noFolder s ends) more

theorem isAbsent_walk {links : Nat} {here : Location} {first : String} {rest : List String}
    (folder : v.get? here = some .folder) (proper : first ≠ "..") (fits : first.utf8ByteSize ≤ maxName)
    (absent : v.get? (here.child (.plain first)) = none) : IsAbsent (v.walk true links here (first :: rest)) := by
  rw [walk_absent folder proper fits absent]
  split
  · exact .inr ⟨_, rfl⟩
  · exact .inl rfl

theorem child_inj {l k : Location} {m n : String} (same : l.child (.plain m) = k.child (.plain n)) :
    l = k ∧ m = n := by
  obtain ⟨up, names⟩ := l
  obtain ⟨up', names'⟩ := k
  simpa [Location.child, and_assoc] using same

/-- Without an entry that no walk goes on from, every walk comes to the same, or to nothing where it came to such
an entry. -/
theorem walk_erase (barren : Barren dud) (ends : EndsIn dud v place name) {links : Nat} {here : Location}
    {names : List String} :
    (v.erase (place.child (.plain name))).walk true links here names = v.walk true links here names ∨
      dud (v.walk true links here names) ∧
        IsAbsent ((v.erase (place.child (.plain name))).walk true links here names) := by
  have gone : (v.erase (place.child (.plain name))).get? (place.child (.plain name)) = none :=
    get?_erase_self (by simp [Location.child])
  have noFolder := barren.noFolder _ ends.entry
  have kept : ∀ {l e}, v.get? l = some e → l ≠ place.child (.plain name) →
      (v.erase (place.child (.plain name))).get? l = some e := by
    intro l e entry other
    rw [get?_erase_of_ne other, entry]
  have folders : ∀ {l}, v.get? l = some .folder → (v.erase (place.child (.plain name))).get? l = some .folder :=
    fun folder => kept folder fun same => noFolder (same ▸ folder)
  -- The walks take the same steps until the longer one comes to the entry. From there on it only meets duds.
  induction links, here, names using walk_induction v true with
  | nil links here =>
    by_cases there : here = place.child (.plain name)
    · rw [there, walk_nil, walk_nil, gone]
      exact .inr ⟨ends.entry, .inr ⟨_, rfl⟩⟩
    · rw [walk_nil, walk_nil, get?_erase_of_ne there]
      exact .inl rfl
  | blocked links here first rest other =>
    by_cases there : here = place.child (.plain name)
    · refine .inr ⟨barren.of_not_folder other (by simp), .inl ?_⟩
      rw [there]
      exact walk_missing gone
    · left
      cases entry : v.get? here with
      | none => rw [walk_missing entry, walk_missing ((get?_erase_of_ne there).trans entry)]
      | some e =>
        have solid := isFolder_eq_false entry other
        rw [walk_blocked e entry solid, walk_blocked e (kept entry there) solid]
  | up links here rest folder ih =>
    rw [walk_up folder, walk_up (folders folder)]
    exact ih
  | tooLong links here first rest folder proper long =>
    rw [walk_tooLong folder proper long, walk_tooLong (folders folder) proper long]
    exact .inl rfl
  | absent links here first rest folder proper fits free =>
    have free' : (v.erase (place.child (.plain name))).get? (here.child (.plain first)) = none := by
      by_cases there : here.child (.plain first) = place.child (.plain name)
      · rw [there, gone]
      · rw [get?_erase_of_ne there, free]
    rw [walk_absent folder proper fits free, walk_absent (folders folder) proper fits free']
    exact .inl rfl
  | linkEnd links here first target folder proper fits link last => cases last
  | noLinks here first rest target folder proper fits link goes =>
    by_cases there : here.child (.plain first) = place.child (.plain name)
    · refine .inr ⟨?_, isAbsent_walk (folders folder) proper fits (there ▸ gone)⟩
      rw [walk_noLinks folder proper fits link goes]
      exact barren.absent _ rfl
    · rw [walk_noLinks folder proper fits link goes, walk_noLinks (folders folder) proper fits (kept link there) goes]
      exact .inl rfl
  | follow links here first rest target folder proper fits link goes ih =>
    by_cases there : here.child (.plain first) = place.child (.plain name)
    · refine .inr ⟨?_, isAbsent_walk (folders folder) proper fits (there ▸ gone)⟩
      rw [walk_link folder proper fits link goes]
      obtain ⟨rfl, rfl⟩ := child_inj there
      exact barren.append (ends.target links target link) rest
    · rw [walk_link folder proper fits link goes, walk_link (folders folder) proper fits (kept link there) goes]
      exact ih
  | down links here first rest e folder proper fits entry solid ih =>
    by_cases there : here.child (.plain first) = place.child (.plain name)
    · refine .inr ⟨?_, isAbsent_walk (folders folder) proper fits (there ▸ gone)⟩
      rw [walk_down folder proper fits entry solid, there]
      cases rest with
      | nil =>
        rw [walk_nil]
        exact ends.entry
      | cons next rest => exact barren.of_not_folder noFolder (by simp)
    · rw [walk_down folder proper fits entry solid, walk_down (folders folder) proper fits (kept entry there) solid]
      exact ih

theorem lookup_erase (barren : Barren dud) (ends : EndsIn dud v place name) (p : Path) :
    (v.erase (place.child (.plain name))).lookup true p = v.lookup true p ∨
      dud (v.lookup true p) ∧ IsAbsent ((v.erase (place.child (.plain name))).lookup true p) := by
  unfold lookup
  split
  · exact .inl rfl
  · split
    · exact .inl rfl
    · exact walk_erase barren ends

theorem folder_erase_iff (barren : Barren dud) (ends : EndsIn dud v place name) {p : Path} {base : Location} :
    Folder (v.erase (place.child (.plain name))) p base ↔ Folder v p base := by
  rcases lookup_erase barren ends p with same | ⟨bad, absent⟩
  · rw [Folder, Folder, same]
  · constructor
    · intro folder
      rw [folder] at absent
      exact absurd absent not_isAbsent_some
    · intro folder
      rw [folder] at bad
      exact absurd rfl (barren.noFolder _ bad)

end Erasure

theorem erase_put {v : Volume} {l : Location} (e : Entry) (absent : v.get? l = none) : (v.put l e).erase l = v := by
  have new := not_mem_of_get?_none absent
  have kept : v.entries.filter (fun d => d.1 ≠ l) = v.entries := by
    rw [List.filter_eq_self]
    intro d found
    simpa using new d found
  rw [put, erase, putEntry_new new]
  simp only [List.filter_append, kept]
  simp

end SiteSurvey.Volume
