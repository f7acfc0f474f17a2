import Mathlib.Algebra.Field.Rat
import Mathlib.Data.List.Forall2
import Mathlib.Tactic.Ring
import SiteSurvey.Proofs.Json.RoundTrip

set_option autoImplicit false

namespace SiteSurvey

namespace Real

/-- Two ways to write one number. A zero has a sign like any other number. -/
def Same : Real → Real → Prop
  | .decimal negative m e, .decimal negative' m' e' => negative = negative' ∧ (m : ℚ) * 10 ^ e = m' * 10 ^ e'
  | .infinite negative, .infinite negative' => negative = negative'
  | .undefined, .undefined => True
  | _, _ => False

theorem trimZeros_shift (fuel m : Nat) (e : Int) :
    ∃ t : Nat, (trimZeros fuel m e).2 = e + t ∧ m = (trimZeros fuel m e).1 * 10 ^ t := by
  induction fuel generalizing m e with
  | zero => exact ⟨0, by simp [trimZeros], by simp [trimZeros]⟩
  | succ fuel ih =>
    rw [trimZeros]
    split
    next zero =>
      simp only [Bool.and_eq_true, bne_iff_ne, beq_iff_eq] at zero
      -- A zero that is taken away from the digits goes into the power of ten.
      obtain ⟨t, power, digits⟩ := ih (m / 10) (e + 1)
      refine ⟨t + 1, by omega, ?_⟩
      rw [Nat.pow_succ, ← Nat.mul_assoc, ← digits]
      omega
    next => exact ⟨0, by simp, by simp⟩

theorem shift_zeros (m t : Nat) (e : Int) : ((m * 10 ^ t : Nat) : ℚ) * 10 ^ e = m * 10 ^ (e + t) := by
  rw [zpow_add₀ (by norm_num), zpow_natCast]
  push_cast
  ring

theorem same_settled (r : Real) : r.Same r.settled := by
  cases r with
  | decimal negative mantissa exponent =>
    rw [settled]
    by_cases zero : mantissa = 0
    · rw [if_pos zero, zero]
      exact ⟨rfl, by simp⟩
    rw [if_neg zero]
    obtain ⟨t, power, digits⟩ := trimZeros_shift (Nat.repr mantissa).length mantissa exponent
    generalize trimZeros (Nat.repr mantissa).length mantissa exponent = trimmed at power digits
    obtain ⟨m, e⟩ := trimmed
    dsimp only at power digits ⊢
    subst digits
    split
    next whole =>
      refine ⟨rfl, ?_⟩
      rw [shift_zeros, shift_zeros, ← power]
      congr 2
      push_cast
      omega
    next =>
      refine ⟨rfl, ?_⟩
      rw [shift_zeros, power]
  | infinite negative => rfl
  | undefined => trivial

end Real

namespace Json

/-- Two values that differ at most in how their numbers are written. -/
inductive Same : Json → Json → Prop
  | null : Same .null .null
  | bool (b : Bool) : Same (.bool b) (.bool b)
  | int (n : Int) : Same (.int n) (.int n)
  | real {r r' : Real} (same : r.Same r') : Same (.real r) (.real r')
  | string (s : Text) : Same (.string s) (.string s)
  | array {items items' : List Json} (same : List.Forall₂ Same items items') : Same (.array items) (.array items')
  | object {members members' : List (Text × Json)} (keys : members.map (·.1) = members'.map (·.1))
      (same : List.Forall₂ Same (members.map (·.2)) (members'.map (·.2))) : Same (.object members) (.object members')

mutual

theorem same_settled : ∀ v : Json, Same v v.settled
  | .null => .null
  | .bool b => .bool b
  | .int n => .int n
  | .real r => .real r.same_settled
  | .string s => .string s
  | .array items => .array (same_settledItems items)
  | .object members => .object (keys_settledMembers members).symm (same_settledMembers members)

theorem same_settledItems : ∀ items : List Json, List.Forall₂ Same items (settledItems items)
  | [] => .nil
  | v :: rest => .cons (same_settled v) (same_settledItems rest)

theorem same_settledMembers :
    ∀ members : List (Text × Json), List.Forall₂ Same (members.map (·.2)) ((settledMembers members).map (·.2))
  | [] => .nil
  | (_, v) :: rest => .cons (same_settled v) (same_settledMembers rest)

end

end Json

end SiteSurvey
