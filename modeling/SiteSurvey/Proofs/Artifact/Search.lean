import SiteSurvey.Proofs.Artifact.Room

set_option autoImplicit false

namespace SiteSurvey

namespace Path

theorem splitSlashes_ne_nil (cs : List Char) : splitSlashes cs ≠ [] := by
  cases cs with
  | nil => simp [splitSlashes]
  | cons c cs =>
    rw [splitSlashes]
    split
    · simp
    · split <;> simp

theorem splitSlashes_append_of_not_mem {cs ds first : List Char} {rest : List (List Char)} (noSlash : '/' ∉ cs)
    (split : splitSlashes ds = first :: rest) : splitSlashes (cs ++ ds) = (cs ++ first) :: rest := by
  induction cs with
  | nil => exact split
  | cons c cs ih =>
    rw [List.mem_cons, not_or] at noSlash
    rw [List.cons_append, splitSlashes, ih noSlash.2]
    simp [Ne.symm noSlash.1]

theorem takeWhile_slash_append {cs ds : List Char} (noSlash : '/' ∉ ds) (some_ : ds ≠ []) (es : List Char) :
    (cs ++ (ds ++ es)).takeWhile (· == '/') = cs.takeWhile (· == '/') := by
  obtain ⟨d, ds, rfl⟩ := List.exists_cons_of_ne_nil some_
  rw [List.mem_cons, not_or] at noSlash
  induction cs with
  | nil => simp [Ne.symm noSlash.1]
  | cons c cs ih =>
    simp only [List.cons_append, List.takeWhile_cons] at ih ⊢
    split
    · rw [ih]
    · rfl

end Path

namespace Artifact

open Volume

/-- The names of a candidate differ in one, which stands at the same position for every count, whatever is put
before and after the time. -/
theorem ofString_candidateName (opening ending : String) (m : Moment) :
    ∃ anchor xs ys opening' ending', ∀ count, Path.ofString (candidateName opening ending m count) =
      ⟨anchor, xs ++ candidateName opening' ending' m count :: ys⟩ := by
  obtain ⟨parts, last, whole⟩ := Path.splitSlashes_append opening.toList
  obtain ⟨first, rest, tail⟩ := List.exists_cons_of_ne_nil (Path.splitSlashes_ne_nil ending.toList)
  have name : ∀ count, String.ofList (last ++ (mark m count ++ first)) =
      candidateName (String.ofList last) (String.ofList first) m count := by
    intro count
    rw [← String.toList_inj, toList_candidateName]
    simp only [String.toList_ofList]
  have isName : ∀ count, Path.isName (last ++ (mark m count ++ first)) = true := by
    intro count
    have inside : 'Z' ∈ last ++ (mark m count ++ first) :=
      List.mem_append_right _ (List.mem_append_left _ (mem_mark m count))
    simp only [Path.isName, Bool.and_eq_true, Bool.not_eq_true', bne_iff_ne, List.isEmpty_eq_false_iff]
    refine ⟨List.ne_nil_of_mem inside, fun dot => ?_⟩
    rw [dot] at inside
    exact absurd inside (by decide)
  refine ⟨(Path.ofString opening).anchor, (parts.filter Path.isName).map String.ofList,
    (rest.filter Path.isName).map String.ofList, String.ofList last, String.ofList first, fun count => ?_⟩
  have split := whole _ _ _ (Path.splitSlashes_append_of_not_mem (not_mem_mark m count rfl) tail)
  have lead : (opening.toList ++ (mark m count ++ ending.toList)).takeWhile (· == '/') = _ :=
    Path.takeWhile_slash_append (not_mem_mark m count rfl) (List.ne_nil_of_mem (mem_mark m count)) _
  simp only [Path.ofString, toList_candidateName, split, lead, List.filter_append, List.filter_cons, isName, if_true,
    List.map_append, List.map_cons, name]

theorem candidate_shape (folder : Path) (opening ending : String) (m : Moment) :
    ∃ anchor xs ys opening' ending', ∀ count, candidate folder opening ending m count =
      ⟨anchor, xs ++ candidateName opening' ending' m count :: ys⟩ := by
  obtain ⟨anchor, xs, ys, opening', ending', shape⟩ := ofString_candidateName opening ending m
  have joined : ∀ count, candidate folder opening ending m count =
      folder.join ⟨anchor, xs ++ candidateName opening' ending' m count :: ys⟩ := fun count => by
    rw [← shape]
    rfl
  by_cases relative : anchor = .relative
  · refine ⟨folder.anchor, folder.names ++ xs, ys, opening', ending', fun count => ?_⟩
    rw [joined, Path.join, if_pos (by simpa using relative), List.append_assoc]
  · refine ⟨anchor, xs, ys, opening', ending', fun count => ?_⟩
    rw [joined, Path.join, if_neg (by simpa using relative)]

theorem leads_of_isPresent {v : Volume} {anchor : Anchor} {xs ys : List String} {name : String} (proper : name ≠ "..")
    (present : v.isPresent ⟨anchor, xs ++ name :: ys⟩ = .ok true) :
    ∃ place left, Leads v true maxLinks (origin ⟨anchor, xs⟩) xs left place ∧
      v.get? (place.child (.plain name)) ≠ none := by
  rw [isPresent, holds] at present
  split at present
  · rename_i e found
    obtain ⟨_, entry, left, leads⟩ := lookup_eq_ok_iff.mp found
    obtain ⟨middle, place, first, second⟩ := (leads_append (List.cons_ne_nil name ys)).mp leads
    refine ⟨place, middle, first, ?_⟩
    cases second with
    | up _ _ => exact absurd rfl proper
    | stop _ _ _ _ => exact fun absent => Option.some_ne_none e (entry.trans absent)
    | follow _ _ _ link _ _ => simp [link]
    | down _ _ _ here _ _ => simp [here]
  · cases present
  · split at present <;> cases present

/-- A search comes to a candidate that is not there, or that the volume cannot be asked about, after no more
tries than there are entries. -/
theorem search_ends (v : Volume) (folder : Path) (opening ending : String) (m : Moment) :
    ∃ count ≤ v.entries.length, (∀ j < count, v.isPresent (candidate folder opening ending m j) = .ok true) ∧
      v.isPresent (candidate folder opening ending m count) ≠ .ok true := by
  obtain ⟨anchor, xs, ys, opening', ending', shape⟩ := candidate_shape folder opening ending m
  have bound : ∀ count, (∀ j < count, v.isPresent (candidate folder opening ending m j) = .ok true) →
      count ≤ v.entries.length := by
    intro count taken
    cases count with
    | zero => exact Nat.zero_le _
    | succ count =>
      -- The names before the one that differs lead to one folder, and the names that differ to entries of it.
      have each : ∀ j < count + 1, ∃ place left, Leads v true maxLinks (origin ⟨anchor, xs⟩) xs left place ∧
          v.get? (place.child (.plain (candidateName opening' ending' m j))) ≠ none := by
        intro j below
        have present := taken j below
        rw [shape] at present
        exact leads_of_isPresent (candidateName_proper _ _ _ _) present
      obtain ⟨place, left, leads, _⟩ := each 0 (Nat.succ_pos count)
      have here : ∀ j < count + 1, v.get? (candidatePlace place opening' ending' m j) ≠ none := by
        intro j below
        obtain ⟨place', left', leads', present⟩ := each j below
        exact leads.unique leads' ▸ present
      exact le_length_of_taken here
  have some_ : ∃ count, v.isPresent (candidate folder opening ending m count) ≠ .ok true := by
    by_contra all
    have full := bound (v.entries.length + 1) fun j _ => by
      by_contra free
      exact all ⟨j, free⟩
    omega
  have taken : ∀ j < Nat.find some_, v.isPresent (candidate folder opening ending m j) = .ok true := by
    intro j before
    by_contra free
    exact Nat.find_min some_ before free
  exact ⟨Nat.find some_, bound _ taken, taken, Nat.find_spec some_⟩

/-- What the search for a free path comes to. It has enough tries for every volume. -/
theorem uniquePath_ends (folder : Path) (opening ending : String) (w : World) :
    ∃ count ≤ w.volume.entries.length,
      (∀ j < count, w.volume.isPresent (candidate folder opening ending w.clock j) = .ok true) ∧
      ((w.volume.isPresent (candidate folder opening ending w.clock count) = .ok false ∧
        outcome (uniquePath folder opening ending) w = (.ok (candidate folder opening ending w.clock count), w)) ∨
      ∃ fault, w.volume.isPresent (candidate folder opening ending w.clock count) = .error fault ∧
        outcome (uniquePath folder opening ending) w =
          (.error (.ofTrouble (.at_ fault (candidate folder opening ending w.clock count).toString)), w)) := by
  obtain ⟨count, reach, taken, free⟩ := search_ends w.volume folder opening ending w.clock
  have enough : count < 0 + (w.volume.entries.length + 1) := by omega
  have searched := outcome_firstFree (Nat.zero_le count) enough (fun j _ => taken j) free
  rw [← outcome_uniquePath] at searched
  refine ⟨count, reach, taken, ?_⟩
  cases present : w.volume.isPresent (candidate folder opening ending w.clock count) with
  | error fault =>
    rw [present] at searched
    exact .inr ⟨fault, rfl, searched⟩
  | ok b =>
    rw [present] at searched
    cases b with
    | true => exact absurd present free
    | false => exact .inl ⟨rfl, searched⟩

end Artifact

end SiteSurvey
