import SiteSurvey.Artifact
import SiteSurvey.Proofs.Text.CodePoint
import SiteSurvey.Proofs.Volume.Change

set_option autoImplicit false

namespace SiteSurvey

namespace Moment

def tells (c : Char) : Bool :=
  c.isDigit || c == '-' || c == 'T' || c == 'Z'

theorem all_repr (n : Nat) : n.repr.toList.all tells = true := by
  rw [Nat.toList_repr, List.all_eq_true]
  intro c found
  simp [tells, Nat.isDigit_of_mem_toDigits (by decide) (by decide) found]

theorem all_padded (places n : Nat) : (padded places n).toList.all tells = true := by
  simp only [padded, String.toList_append, String.toList_ofList, List.all_append, all_repr, Bool.and_true,
    List.all_eq_true]
  intro c found
  rw [List.eq_of_mem_replicate found]
  rfl

theorem all_yearText (m : Moment) : m.yearText.toList.all tells = true := by
  rw [yearText, Text.toString, String.toList_ofList]
  cases m.year with
  | ofNat n =>
    simp only [Text.ofInt, Text.ofString, Text.toChars_ofChars]
    exact all_repr n
  | negSucc n =>
    simp only [Text.ofInt, Text.ofString, Text.toChars_ofChars, String.toList_append, List.all_append, all_repr]
    decide

theorem all_stamp (m : Moment) : m.stamp.toList.all tells = true := by
  simp only [stamp, dateText, String.toList_append, List.all_append, all_yearText, all_padded]
  decide

theorem mem_stamp (m : Moment) : 'Z' ∈ m.stamp.toList := by
  simp only [stamp, String.toList_append, List.mem_append]
  exact .inr (by decide)

end Moment

namespace Artifact

open Volume

def candidateName (opening ending : String) (m : Moment) (count : Nat) : String :=
  opening ++ m.stamp ++ (if count == 0 then "" else "-" ++ Nat.repr count) ++ ending

/-- The part of a candidate's name that is not given: the time and the count. -/
def mark (m : Moment) (count : Nat) : List Char :=
  (m.stamp ++ if count == 0 then "" else "-" ++ Nat.repr count).toList

section Names

variable (opening ending : String) (m : Moment) (count : Nat)

theorem mem_mark : 'Z' ∈ mark m count := by
  simp only [mark, String.toList_append, List.mem_append]
  exact .inl m.mem_stamp

theorem all_mark : (mark m count).all Moment.tells = true := by
  simp only [mark, String.toList_append, List.all_append, Moment.all_stamp, Bool.true_and]
  split
  · rfl
  · simp only [String.toList_append, List.all_append, Moment.all_repr]
    decide

theorem not_mem_mark {c : Char} (other : Moment.tells c = false) : c ∉ mark m count := by
  intro found
  have telling := List.all_eq_true.mp (all_mark m count) c found
  rw [other] at telling
  cases telling

theorem toList_candidateName :
    (candidateName opening ending m count).toList = opening.toList ++ (mark m count ++ ending.toList) := by
  simp only [candidateName, mark, String.toList_append, List.append_assoc]

theorem not_mem_candidateName {c : Char} (other : Moment.tells c = false) (before : c ∉ opening.toList)
    (after : c ∉ ending.toList) : c ∉ (candidateName opening ending m count).toList := by
  simp only [toList_candidateName, List.mem_append, not_or]
  exact ⟨before, not_mem_mark m count other, after⟩

theorem mem_candidateName : 'Z' ∈ (candidateName opening ending m count).toList := by
  simp only [toList_candidateName, List.mem_append]
  exact .inr (.inl (mem_mark m count))

theorem candidateName_proper : candidateName opening ending m count ≠ ".." := by
  intro same
  have inside := mem_candidateName opening ending m count
  rw [same] at inside
  exact absurd inside (by decide)

theorem candidate_eq_child (folder : Path) (noSlash : '/' ∉ opening.toList) (noSlash' : '/' ∉ ending.toList) :
    candidate folder opening ending m count = folder.child (candidateName opening ending m count) := by
  refine Path.div_eq_child (Path.ofString_eq (not_mem_candidateName opening ending m count rfl noSlash noSlash') ?_)
  have inside := mem_candidateName opening ending m count
  rw [candidateName] at inside
  simp only [Path.isName, Bool.and_eq_true, Bool.not_eq_true', bne_iff_ne]
  constructor
  · rw [List.isEmpty_eq_false_iff]
    exact List.ne_nil_of_mem inside
  · intro same
    rw [same] at inside
    exact absurd inside (by decide)

end Names

theorem candidateName_injective {opening ending : String} {m : Moment} {j k : Nat}
    (same : candidateName opening ending m j = candidateName opening ending m k) : j = k := by
  have lists := congrArg String.toList same
  simp only [candidateName, String.toList_append] at lists
  have marks := List.append_cancel_left (List.append_cancel_right lists)
  cases j with
  | zero =>
    cases k with
    | zero => rfl
    | succ k => simp at marks
  | succ j =>
    cases k with
    | zero => simp at marks
    | succ k =>
      simp only [Nat.add_one_ne_zero, beq_iff_eq, if_false, String.toList_append, Nat.toList_repr] at marks
      have digits := congrArg (fun ds => Nat.ofDigitChars 10 ds 0) (List.append_cancel_left marks)
      simpa only [Nat.ofDigitChars_ten_toDigits] using digits

/-- What a search for a free candidate comes to: those before it are taken, and it is free itself unless
the search was given up there. -/
theorem firstFree_eq_ok {folder : Path} {opening ending : String} {m : Moment} {fuel count : Nat}
    {w w' : World} {p : Path}
    (found : outcome (firstFree folder opening ending m fuel count) w = (.ok p, w')) :
    w' = w ∧ ∃ k, count ≤ k ∧ p = candidate folder opening ending m k ∧
      (∀ j, count ≤ j → j < k → w.volume.isPresent (candidate folder opening ending m j) = .ok true) ∧
      (k = count + fuel ∨ w.volume.isPresent p = .ok false) := by
  induction fuel generalizing count with
  | zero =>
    cases found
    exact ⟨rfl, count, Nat.le_refl _, rfl, by omega, .inl rfl⟩
  | succ fuel ih =>
    obtain ⟨taken, w₁, asked, rest⟩ := outcome_bind_eq_ok found
    rw [Survey.outcome_ask] at asked
    cases present : w.volume.isPresent (candidate folder opening ending m count) with
    | error fault =>
      rw [present] at asked
      cases (Prod.mk.inj asked).1
    | ok b =>
      rw [present] at asked
      cases asked
      cases taken with
      | false =>
        cases rest
        exact ⟨rfl, count, Nat.le_refl _, rfl, by omega, .inr present⟩
      | true =>
        -- A candidate that is taken hands over to the next one, with one try less.
        obtain ⟨same, k, from_, here, before, ends⟩ := ih rest
        refine ⟨same, k, by omega, here, ?_, ?_⟩
        · intro j lower upper
          rcases Nat.eq_or_lt_of_le lower with rfl | later
          · exact present
          · exact before j later upper
        · rcases ends with last | free
          · exact .inl (by omega)
          · exact .inr free

theorem state_firstFree (folder : Path) (opening ending : String) (m : Moment) (fuel count : Nat) (w : World) :
    (outcome (firstFree folder opening ending m fuel count) w).2 = w := by
  induction fuel generalizing count with
  | zero => rfl
  | succ fuel ih =>
    rw [firstFree, outcome_bind, Survey.outcome_ask]
    cases w.volume.isPresent (candidate folder opening ending m count) with
    | error fault => rfl
    | ok taken =>
      cases taken with
      | false => rfl
      | true => exact ih (count + 1)

theorem firstFree_eq_error {folder : Path} {opening ending : String} {m : Moment} {fuel count : Nat}
    {w w' : World} {f : Failure}
    (failed : outcome (firstFree folder opening ending m fuel count) w = (.error f, w')) :
    ∃ fault path, fault.meansAbsent = false ∧ f = .ofTrouble (.at_ fault path) := by
  induction fuel generalizing count with
  | zero => cases failed
  | succ fuel ih =>
    rw [firstFree, outcome_bind, Survey.outcome_ask] at failed
    cases present : w.volume.isPresent (candidate folder opening ending m count) with
    | error fault =>
      rw [present] at failed
      cases failed
      exact ⟨fault, _, (holds_error present).1, rfl⟩
    | ok b =>
      rw [present] at failed
      cases b with
      | false => cases failed
      | true => exact ih failed

theorem outcome_uniquePath (folder : Path) (opening ending : String) (w : World) :
    outcome (uniquePath folder opening ending) w =
      outcome (firstFree folder opening ending w.clock (w.volume.entries.length + 1) 0) w := by
  rw [uniquePath, outcome_bind_ok outcome_get]

end Artifact

end SiteSurvey
