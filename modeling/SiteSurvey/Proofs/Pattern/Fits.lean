import SiteSurvey.Proofs.Pattern.Advance

set_option autoImplicit false

namespace SiteSurvey.Pattern

variable {text : Array Char} {c : Class} {r : Regex}

def Class.HoldsAt (c : Class) (text : Array Char) (i : Nat) : Prop :=
  ∃ n, codeAt text i = some n ∧ c.holds n = true

/-- The stretches of a text that a pattern describes, whatever else stands around them and in whatever order of
preference. Groups, and parts that are only looked at, are left out. -/
inductive Fits (text : Array Char) : Regex → Nat → Nat → Prop
  | empty (i : Nat) : Fits text .empty i i
  | sequence {first rest : Regex} {i j k : Nat} : Fits text first i j → Fits text rest j k →
      Fits text (.sequence first rest) i k
  | first {one other : Regex} {i j : Nat} : Fits text one i j → Fits text (.either one other) i j
  | second {one other : Regex} {i j : Nat} : Fits text other i j → Fits text (.either one other) i j
  | character {c : Class} {i : Nat} : c.HoldsAt text i → Fits text (.character c) i (i + 1)
  | spot {s : Spot} {i : Nat} : s.holds text i = true → Fits text (.spot s) i i
  | loop {least : Nat} {most : Option Nat} {c : Class} {i n : Nat} : least ≤ n → (∀ m, most = some m → n ≤ m) →
      (∀ k < n, c.HoldsAt text (i + k)) → Fits text (.loop .greedy least most (.character c)) i (i + n)

/-- Patterns of characters, spots, alternatives and greedy repetitions of a character. -/
def Regex.isFlat : Regex → Bool
  | empty | character _ | spot _ | loop .greedy _ _ (character _) => true
  | sequence first rest => first.isFlat && rest.isFlat
  | either first second => first.isFlat && second.isFlat
  | _ => false

section Runs

variable {most : Option Nat} {fuel i count : Nat}

theorem allows_iff : allows most count = true ↔ ∀ m, most = some m → count < m := by
  cases most with
  | none => simp [allows]
  | some n => simp [allows]

theorem runLength_spec (bound : ∀ m, most = some m → count ≤ m) :
    ∃ n, runLength text c most fuel i count = count + n ∧ (∀ m, most = some m → count + n ≤ m) ∧
      ∀ k < n, c.HoldsAt text (i + k) := by
  induction fuel generalizing i count with
  | zero => exact ⟨0, rfl, bound, fun k past => by omega⟩
  | succ fuel ih =>
    have stops : ∃ n, count = count + n ∧ (∀ m, most = some m → count + n ≤ m) ∧
        ∀ k < n, c.HoldsAt text (i + k) := ⟨0, rfl, bound, fun k past => by omega⟩
    rw [runLength]
    split
    next code there =>
      split
      next more =>
        rw [Bool.and_eq_true] at more
        obtain ⟨n, length, within, all⟩ := @ih (i + 1) (count + 1) (allows_iff.mp more.1)
        refine ⟨n + 1, by omega, fun m same => ?_, fun k inside => ?_⟩
        · have := within m same
          omega
        · cases k with
          | zero => exact ⟨code, there, more.2⟩
          | succ k =>
            have later := all k (by omega)
            rwa [Nat.add_assoc, Nat.add_comm 1 k] at later
      next => exact stops
    next => exact stops

theorem le_runLength {n : Nat} (fuels : n ≤ fuel) (bound : ∀ m, most = some m → count + n ≤ m)
    (all : ∀ k < n, c.HoldsAt text (i + k)) : count + n ≤ runLength text c most fuel i count := by
  induction n generalizing fuel i count with
  | zero =>
    obtain ⟨n, length, _⟩ := @runLength_spec text c most fuel i count bound
    omega
  | succ n ih =>
    obtain ⟨fuel, rfl⟩ : ∃ f, fuel = f + 1 := ⟨fuel - 1, by omega⟩
    obtain ⟨code, there, holds⟩ := all 0 (by omega)
    rw [Nat.add_zero] at there
    have more : allows most count = true := by
      rw [allows_iff]
      intro m same
      have := bound m same
      omega
    have rest := @ih fuel (i + 1) (count + 1) (by omega)
      (fun m same => by have := bound m same; omega)
      (fun k inside => by
        have later := all (k + 1) (by omega)
        rwa [Nat.add_comm k 1, ← Nat.add_assoc] at later)
    rw [runLength, there]
    simp only [more, holds, Bool.and_self, if_true]
    omega

theorem backOff_isSome {next : Goal} {st : State} {least k n : Nat} (least_le : least ≤ k) (le : k ≤ n)
    (goes : (next (st.forward k)).isSome = true) : (backOff next st least n).isSome = true := by
  induction n with
  | zero =>
    obtain rfl : k = 0 := by omega
    exact goes
  | succ n ih =>
    rw [backOff]
    split
    next => rfl
    next failed =>
      -- What goes on after so many characters fails, so it is a smaller number.
      have smaller : k ≤ n := by
        rcases Nat.lt_or_eq_of_le le with lower | rfl
        · omega
        · rw [failed] at goes
          cases goes
      rw [if_pos (by omega)]
      exact ih smaller

end Runs

/-- A match of a flat pattern goes on from the end of a stretch that the pattern describes. -/
theorem fits_of_match (flat : r.isFlat = true) {st out : State} {next : Goal}
    (found : r.match text st next = some out) :
    ∃ j, Fits text r st.position j ∧ next { st with position := j } = some out := by
  induction r generalizing st next with
  | empty => exact ⟨st.position, .empty _, found⟩
  | sequence first rest ihFirst ihRest =>
    simp only [Regex.isFlat, Bool.and_eq_true] at flat
    obtain ⟨j, here, found⟩ := ihFirst flat.1 found
    obtain ⟨k, there, done⟩ := ihRest flat.2 found
    exact ⟨k, .sequence here there, done⟩
  | either one other ihOne ihOther =>
    simp only [Regex.isFlat, Bool.and_eq_true] at flat
    rw [Regex.match] at found
    split at found
    next answer done =>
      cases found
      obtain ⟨j, here, done⟩ := ihOne flat.1 done
      exact ⟨j, .first here, done⟩
    next =>
      obtain ⟨j, here, done⟩ := ihOther flat.2 found
      exact ⟨j, .second here, done⟩
  | character c =>
    rw [Regex.match] at found
    split at found
    next n there =>
      split at found
      next holds => exact ⟨st.position + 1, .character ⟨n, there, holds⟩, found⟩
      next => cases found
    next => cases found
  | spot s =>
    rw [Regex.match] at found
    split at found
    next holds => exact ⟨st.position, .spot holds, found⟩
    next => cases found
  | loop greed least most body _ =>
    obtain ⟨rfl, c, rfl⟩ : greed = .greedy ∧ ∃ c, body = .character c := by
      cases greed <;> cases body <;> simp_all [Regex.isFlat]
    rw [Regex.match] at found
    simp only [characterLoop] at found
    split at found
    next => cases found
    next enough =>
      obtain ⟨k, fits, short, done⟩ := backOff_ends (Nat.not_lt.mp enough) found
      obtain ⟨n, length, within, all⟩ := @runLength_spec text c most (text.size - st.position)
        st.position 0 (fun _ _ => Nat.zero_le _)
      refine ⟨st.position + k, .loop fits (fun m same => ?_) (fun j inside => all j (by omega)), done⟩
      have := within m same
      omega
  | group | atomic | lookAhead | lookBehind | same | whether => cases flat

/-- Where a pattern describes a stretch after which all goes well, there is a match. -/
theorem match_isSome_of_fits {i j : Nat} (fits : Fits text r i j) {st : State} {next : Goal} (here : st.position = i)
    (goes : (next { st with position := j }).isSome = true) : (r.match text st next).isSome = true := by
  induction fits generalizing st next with
  | empty i =>
    subst here
    exact goes
  | sequence _ _ ihFirst ihRest => exact ihFirst here (ihRest rfl goes)
  | first _ ih =>
    have found := ih here goes
    obtain ⟨out, found⟩ := Option.isSome_iff_exists.mp found
    rw [Regex.match, found]
    rfl
  | second _ ih =>
    rw [Regex.match]
    split
    next => rfl
    next => exact ih here goes
  | character holds =>
    subst here
    obtain ⟨n, there, holds⟩ := holds
    rw [Regex.match, there]
    simpa only [holds, if_true, State.forward] using goes
  | spot holds =>
    subst here
    rw [Regex.match, if_pos holds]
    exact goes
  | @loop least most c i n fits bound all =>
    subst here
    have inside : n ≤ text.size - st.position := by
      cases n with
      | zero => omega
      | succ n =>
        obtain ⟨_, there, _⟩ := all n (by omega)
        have := lt_size_of_codeAt there
        omega
    have longest : 0 + n ≤ runLength text c most (text.size - st.position) st.position 0 :=
      le_runLength inside (fun m same => by have := bound m same; omega) all
    rw [Nat.zero_add] at longest
    rw [Regex.match]
    simp only [characterLoop]
    rw [if_neg (by omega)]
    exact backOff_isSome fits longest goes

section Inversion

variable {i j k : Nat}

theorem fits_sequence {one other : Regex} :
    Fits text (.sequence one other) i k ↔ ∃ j, Fits text one i j ∧ Fits text other j k := by
  constructor
  · rintro (_ | ⟨here, there⟩)
    exact ⟨_, here, there⟩
  · rintro ⟨j, here, there⟩
    exact .sequence here there

theorem fits_either {one other : Regex} :
    Fits text (.either one other) i j ↔ Fits text one i j ∨ Fits text other i j := by
  constructor
  · intro fits
    cases fits with
    | first here => exact .inl here
    | second here => exact .inr here
  · rintro (here | here)
    · exact .first here
    · exact .second here

theorem fits_character : Fits text (.character c) i j ↔ j = i + 1 ∧ c.HoldsAt text i := by
  constructor
  · intro fits
    cases fits with
    | character holds => exact ⟨rfl, holds⟩
  · rintro ⟨rfl, holds⟩
    exact .character holds

theorem fits_spot {s : Spot} : Fits text (.spot s) i j ↔ j = i ∧ s.holds text i = true := by
  constructor
  · intro fits
    cases fits with
    | spot holds => exact ⟨rfl, holds⟩
  · rintro ⟨rfl, holds⟩
    exact .spot holds

theorem fits_times {n : Nat} : Fits text (.loop .greedy n (some n) (.character c)) i j ↔
    j = i + n ∧ ∀ k < n, c.HoldsAt text (i + k) := by
  constructor
  · intro fits
    cases fits with
    | @loop _ _ _ _ count least bound all =>
      obtain rfl : count = n := Nat.le_antisymm (bound n rfl) least
      exact ⟨rfl, all⟩
  · rintro ⟨rfl, all⟩
    exact .loop (Nat.le_refl n) (fun m same => by cases same; exact Nat.le_refl n) all

end Inversion

section Anchored

variable {p : Pattern} {i : Nat}

theorem fits_of_matchAt? (flat : p.regex.isFlat = true) {s : Span} (found : p.matchAt? text i = some s) :
    Fits text p.regex i s.stop := by
  simp only [matchAt?, Option.map_eq_some_iff] at found
  obtain ⟨st, ran, rfl⟩ := found
  obtain ⟨j, fits, done⟩ := fits_of_match flat ran
  cases done
  exact fits

/-- A flat pattern that describes at most one stretch from an offset matches that stretch. -/
theorem matchAt?_eq_some_iff (flat : p.regex.isFlat = true)
    (unique : ∀ j k, Fits text p.regex i j → Fits text p.regex i k → j = k) {s : Span} :
    p.matchAt? text i = some s ↔ s.start = i ∧ Fits text p.regex i s.stop := by
  constructor
  · intro found
    exact ⟨matchAt?_start found, fits_of_matchAt? flat found⟩
  · rintro ⟨rfl, fits⟩
    have goes : (p.matchAt? text s.start).isSome = true := by
      rw [matchAt?, Option.isSome_map]
      exact match_isSome_of_fits fits rfl rfl
    obtain ⟨t, found⟩ := Option.isSome_iff_exists.mp goes
    have start := matchAt?_start found
    have stop := unique _ _ (fits_of_matchAt? flat found) fits
    rw [found]
    congr 1
    cases s
    cases t
    simp_all

end Anchored

end SiteSurvey.Pattern
