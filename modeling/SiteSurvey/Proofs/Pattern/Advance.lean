import SiteSurvey.Pattern.Basic

set_option autoImplicit false

namespace SiteSurvey.Pattern

variable {text : Array Char}

/-- A match goes on by so many characters or more, and beyond the end of the text it goes nowhere. -/
def Advances (text : Array Char) (n : Nat) (st st' : State) : Prop :=
  st.position + n ≤ st'.position ∧ st'.position ≤ max st.position text.size

theorem Advances.refl (st : State) : Advances text 0 st st :=
  ⟨Nat.le_refl _, Nat.le_max_left _ _⟩

theorem Advances.trans {n m : Nat} {a b c : State} (first : Advances text n a b) (second : Advances text m b c) :
    Advances text (n + m) a c := by
  unfold Advances at *
  omega

theorem Advances.less {n m : Nat} {a b : State} (further : Advances text m a b) (less : n ≤ m) :
    Advances text n a b := by
  unfold Advances at *
  omega

theorem advances_forward {st : State} {n : Nat} (within : st.position + n ≤ text.size) :
    Advances text n st (st.forward n) := by
  simp only [Advances, State.forward]
  omega

theorem advances_of_same {st st' : State} (same : st'.position = st.position) : Advances text 0 st st' := by
  simp only [Advances]
  omega

/-- A part of a pattern that hands on to what remains only so many characters further on. -/
def Steady (text : Array Char) (n : Nat) (part : State → Goal → Option State) : Prop :=
  ∀ st next out, part st next = some out → ∃ st', Advances text n st st' ∧ next st' = some out

/-- The fewest characters that a pattern takes. What is only looked at takes none, and what a group held may be
empty. -/
def Regex.least : Regex → Nat
  | empty | spot _ | lookAhead _ _ | lookBehind _ _ _ | same _ _ => 0
  | character _ => 1
  | sequence first rest => first.least + rest.least
  | either first second => min first.least second.least
  | group _ body | atomic body => body.least
  | loop _ least _ body => least * body.least
  | whether _ yes no => min yes.least no.least

theorem lt_size_of_codeAt {i n : Nat} (found : codeAt text i = some n) : i < text.size := by
  simp only [codeAt, Option.map_eq_some_iff] at found
  obtain ⟨c, there, _⟩ := found
  exact (Array.getElem?_eq_some_iff.mp there).1

section Loops

variable {body : State → Goal → Option State} {n least : Nat} {most : Option Nat}

theorem Advances.again {count : Nat} {a b c : State} (here : Advances text n a b)
    (there : Advances text ((least - (count + 1)) * n) b c) : Advances text ((least - count) * n) a c := by
  refine (here.trans there).less ?_
  calc (least - count) * n ≤ (least - (count + 1) + 1) * n := Nat.mul_le_mul_right n (by omega)
    _ = n + (least - (count + 1)) * n := by rw [Nat.succ_mul, Nat.add_comm]

theorem Advances.enough {count : Nat} (enough : least ≤ count) (st : State) :
    Advances text ((least - count) * n) st st := by
  rw [Nat.sub_eq_zero_of_le enough, Nat.zero_mul]
  exact .refl st

-- The induction is on the fuel: the rest of the loop is what the body hands on to.
theorem greedyLoop_steady (steady : Steady text n body) (next : Goal) {fuel count : Nat} (last : Option Nat)
    (st out : State) (lasts : least ≤ count + fuel)
    (found : greedyLoop body least most next fuel count last st = some out) :
    ∃ st', Advances text ((least - count) * n) st st' ∧ next st' = some out := by
  induction fuel generalizing count last st with
  | zero => exact ⟨st, .enough lasts st, found⟩
  | succ fuel ih =>
    have again : ∀ last, body st (greedyLoop body least most next fuel (count + 1) last) = some out →
        ∃ st', Advances text ((least - count) * n) st st' ∧ next st' = some out := by
      intro last ran
      obtain ⟨st₁, here, rest⟩ := steady st _ out ran
      obtain ⟨st₂, there, ended⟩ := ih last st₁ (by omega) rest
      exact ⟨st₂, here.again there, ended⟩
    rw [greedyLoop] at found
    split at found
    next => exact again last found
    next enough =>
      simp only at found
      split at found
      next answer more =>
        cases found
        split at more
        next => exact again _ more
        next => cases more
      next => exact ⟨st, .enough (Nat.not_lt.mp enough) st, found⟩

theorem lazyLoop_steady (steady : Steady text n body) (next : Goal) {fuel count : Nat} (last : Option Nat)
    (st out : State) (lasts : least ≤ count + fuel)
    (found : lazyLoop body least most next fuel count last st = some out) :
    ∃ st', Advances text ((least - count) * n) st st' ∧ next st' = some out := by
  induction fuel generalizing count last st with
  | zero => exact ⟨st, .enough lasts st, found⟩
  | succ fuel ih =>
    have again : ∀ last, body st (lazyLoop body least most next fuel (count + 1) last) = some out →
        ∃ st', Advances text ((least - count) * n) st st' ∧ next st' = some out := by
      intro last ran
      obtain ⟨st₁, here, rest⟩ := steady st _ out ran
      obtain ⟨st₂, there, ended⟩ := ih last st₁ (by omega) rest
      exact ⟨st₂, here.again there, ended⟩
    rw [lazyLoop] at found
    split at found
    next => exact again last found
    next enough =>
      split at found
      next answer done =>
        cases found
        exact ⟨st, .enough (Nat.not_lt.mp enough) st, done⟩
      next =>
        split at found
        next => exact again _ found
        next => cases found

theorem possessiveLoop_steady (steady : Steady text n body) {fuel count : Nat} (last : Option Nat)
    (st out : State) (lasts : least ≤ count + fuel)
    (found : possessiveLoop body least most fuel count last st = some out) :
    Advances text ((least - count) * n) st out := by
  induction fuel generalizing count last st with
  | zero =>
    cases found
    exact .enough lasts _
  | succ fuel ih =>
    have again : ∀ last st', body st some = some st' →
        possessiveLoop body least most fuel (count + 1) last st' = some out →
        Advances text ((least - count) * n) st out := by
      intro last st' ran rest
      obtain ⟨st₁, here, same⟩ := steady st _ st' ran
      cases same
      exact here.again (ih last st' (by omega) rest)
    rw [possessiveLoop] at found
    split at found
    next =>
      split at found
      next st' ran => exact again last st' ran found
      next => cases found
    next enough =>
      split at found
      next =>
        split at found
        next st' ran => exact again _ st' ran found
        next =>
          cases found
          exact .enough (Nat.not_lt.mp enough) _
      next =>
        cases found
        exact .enough (Nat.not_lt.mp enough) _

end Loops

section Characters

theorem runLength_le (c : Class) (most : Option Nat) (fuel i count : Nat) :
    runLength text c most fuel i count ≤ count + (text.size - i) := by
  induction fuel generalizing i count with
  | zero => simp [runLength]
  | succ fuel ih =>
    rw [runLength]
    split
    next n there =>
      have within := lt_size_of_codeAt there
      split
      next =>
        have rest := ih (i + 1) (count + 1)
        omega
      next => omega
    next => omega

theorem backOff_ends {next : Goal} {st out : State} {least n : Nat} (enough : least ≤ n)
    (found : backOff next st least n = some out) : ∃ k, least ≤ k ∧ k ≤ n ∧ next (st.forward k) = some out := by
  induction n with
  | zero => exact ⟨0, enough, Nat.le_refl 0, found⟩
  | succ n ih =>
    rw [backOff] at found
    split at found
    next answer done =>
      cases found
      exact ⟨n + 1, enough, Nat.le_refl _, done⟩
    next =>
      split at found
      next more =>
        obtain ⟨k, least, bound, done⟩ := ih more found
        exact ⟨k, least, by omega, done⟩
      next => cases found

theorem stretch_ends {next : Goal} {st out : State} {longest fuel n : Nat} (bound : n ≤ longest)
    (found : stretch next st longest fuel n = some out) :
    ∃ k, n ≤ k ∧ k ≤ longest ∧ next (st.forward k) = some out := by
  induction fuel generalizing n with
  | zero => cases found
  | succ fuel ih =>
    rw [stretch] at found
    split at found
    next answer done =>
      cases found
      exact ⟨n, Nat.le_refl n, bound, done⟩
    next =>
      split at found
      next more =>
        obtain ⟨k, least, short, done⟩ := ih more found
        exact ⟨k, by omega, short, done⟩
      next => cases found

theorem characterLoop_steady (c : Class) (greed : Greed) (least : Nat) (most : Option Nat) :
    Steady text least fun st next => characterLoop text c greed least most next st := by
  intro st next out found
  have bound : runLength text c most (text.size - st.position) st.position 0 ≤ 0 + (text.size - st.position) :=
    runLength_le c most (text.size - st.position) st.position 0
  -- However the repetition is given back or drawn out, it stays within the longest run.
  have ends : ∃ k, least ≤ k ∧ k ≤ runLength text c most (text.size - st.position) st.position 0 ∧
      next (st.forward k) = some out := by
    simp only [characterLoop] at found
    split at found
    next => cases found
    next enough =>
      cases greed with
      | greedy => exact backOff_ends (Nat.not_lt.mp enough) found
      | lazy => exact stretch_ends (Nat.not_lt.mp enough) found
      | possessive => exact ⟨_, Nat.not_lt.mp enough, Nat.le_refl _, found⟩
  obtain ⟨k, enough, short, done⟩ := ends
  refine ⟨st.forward k, ?_, done⟩
  simp only [Advances, State.forward]
  omega

theorem sameText_within {fold : Fold} {i j n : Nat} (same : sameText text fold i j n = true) :
    n = 0 ∨ j + n ≤ text.size := by
  induction n generalizing i j with
  | zero => exact .inl rfl
  | succ n ih =>
    rw [sameText] at same
    split at same
    next a b first second =>
      have within := lt_size_of_codeAt second
      rw [Bool.and_eq_true] at same
      rcases ih same.2 with rfl | rest
      · exact .inr (by omega)
      · exact .inr (by omega)
    next => cases same

end Characters

theorem match_loop_steady {body : Regex} (greed : Greed) (least : Nat) (most : Option Nat)
    (steady : Steady text body.least (body.match text)) :
    Steady text (least * body.least) ((Regex.loop greed least most body).match text) := by
  intro st next out found
  by_cases single : ∃ c, body = .character c
  · obtain ⟨c, rfl⟩ := single
    rw [Regex.match] at found
    rw [Regex.least, Nat.mul_one]
    exact characterLoop_steady c greed least most st next out found
  · have several : ∀ c, body = .character c → False := fun c same => single ⟨c, same⟩
    have lasts : least ≤ 0 + (least + (text.size - st.position) + 2) := by omega
    cases greed with
    | greedy =>
      rw [Regex.match] at found
      · exact greedyLoop_steady steady next _ st out lasts found
      · exact several
    | lazy =>
      rw [Regex.match] at found
      · exact lazyLoop_steady steady next _ st out lasts found
      · exact several
    | possessive =>
      rw [Regex.match] at found
      · split at found
        next st' ran => exact ⟨st', possessiveLoop_steady steady _ st st' lasts ran, found⟩
        next => cases found
      · exact several

theorem Steady.less {n m : Nat} {part : State → Goal → Option State} (steady : Steady text m part) (less : n ≤ m) :
    Steady text n part := by
  intro st next out found
  obtain ⟨st', further, done⟩ := steady st next out found
  exact ⟨st', further.less less, done⟩

theorem match_steady (r : Regex) : Steady text r.least (r.match text) := by
  induction r with
  | empty => exact fun st next out found => ⟨st, .refl st, found⟩
  | sequence first rest ihFirst ihRest =>
    intro st next out found
    obtain ⟨st₁, here, found⟩ := ihFirst st _ out found
    obtain ⟨st₂, there, done⟩ := ihRest st₁ next out found
    exact ⟨st₂, here.trans there, done⟩
  | either first second ihFirst ihSecond =>
    intro st next out found
    rw [Regex.match] at found
    split at found
    next answer done =>
      cases found
      exact ihFirst.less (Nat.min_le_left _ _) st next _ done
    next => exact ihSecond.less (Nat.min_le_right _ _) st next out found
  | character c =>
    intro st next out found
    rw [Regex.match] at found
    split at found
    next n there =>
      split at found
      next => exact ⟨st.forward 1, advances_forward (lt_size_of_codeAt there), found⟩
      next => cases found
    next => cases found
  | spot s =>
    intro st next out found
    rw [Regex.match] at found
    split at found
    next => exact ⟨st, .refl st, found⟩
    next => cases found
  | group number body ih =>
    -- Marking the ends of a group moves nothing.
    intro st next out found
    obtain ⟨st', here, done⟩ := ih (st.mark (2 * number)) _ out found
    exact ⟨st'.mark (2 * number + 1), here, done⟩
  | loop greed least most body ih => exact match_loop_steady greed least most ih
  | atomic body ih =>
    intro st next out found
    rw [Regex.match] at found
    split at found
    next st' ran =>
      obtain ⟨st₁, here, same⟩ := ih st some st' ran
      cases same
      exact ⟨st', here, found⟩
    next => cases found
  | lookAhead negated body ih =>
    -- What is only looked at leaves the position as it is.
    intro st next out found
    rw [Regex.match] at found
    split at found
    next st' ran =>
      split at found
      next => cases found
      next => exact ⟨{ st' with position := st.position }, advances_of_same rfl, found⟩
    next =>
      split at found
      next => exact ⟨st, .refl st, found⟩
      next => cases found
  | lookBehind negated width body ih =>
    intro st next out found
    rw [Regex.match] at found
    split at found
    next st' ran =>
      split at found
      next => cases found
      next => exact ⟨{ st' with position := st.position }, advances_of_same rfl, found⟩
    next =>
      split at found
      next => exact ⟨st, .refl st, found⟩
      next => cases found
  | same number fold =>
    intro st next out found
    rw [Regex.match] at found
    split at found
    next start stop marked =>
      split at found
      next alike =>
        refine ⟨_, ?_, found⟩
        rcases sameText_within alike with none | within
        · exact advances_of_same (by simp [State.forward, none])
        · exact (advances_forward within).less (Nat.zero_le _)
      next => cases found
    next => cases found
  | whether number yes no ihYes ihNo =>
    intro st next out found
    rw [Regex.match] at found
    split at found
    next => exact ihYes.less (Nat.min_le_left _ _) st next out found
    next => exact ihNo.less (Nat.min_le_right _ _) st next out found

section Search

variable {p : Pattern}

theorem matchAt?_start {i : Nat} {s : Span} (found : p.matchAt? text i = some s) : s.start = i := by
  simp only [matchAt?, Option.map_eq_some_iff] at found
  obtain ⟨st, _, rfl⟩ := found
  rfl

theorem matchAt?_least {i : Nat} {s : Span} (found : p.matchAt? text i = some s) :
    i + p.regex.least ≤ s.stop ∧ s.stop ≤ max i text.size := by
  simp only [matchAt?, Option.map_eq_some_iff] at found
  obtain ⟨st, ran, rfl⟩ := found
  obtain ⟨st', advances, same⟩ := match_steady p.regex _ some st ran
  cases same
  exact advances

theorem matchAt?_bounds {i : Nat} {s : Span} (found : p.matchAt? text i = some s) :
    i ≤ s.stop ∧ s.stop ≤ max i text.size := by
  have ends := matchAt?_least found
  exact ⟨by omega, ends.2⟩

theorem searchFrom_eq_some {fuel start : Nat} {s : Span} (found : p.searchFrom text fuel start = some s) :
    p.matchAt? text s.start = some s ∧ start ≤ s.start ∧ s.start < start + fuel ∧
      ∀ i, start ≤ i → i < s.start → p.matchAt? text i = none := by
  induction fuel generalizing start with
  | zero => cases found
  | succ fuel ih =>
    rw [searchFrom] at found
    split at found
    next t here =>
      cases found
      obtain rfl := matchAt?_start here
      exact ⟨here, Nat.le_refl _, by omega, fun i _ _ => by omega⟩
    next here =>
      obtain ⟨there, after, within, gap⟩ := ih found
      refine ⟨there, by omega, by omega, fun i from_ before => ?_⟩
      by_cases first : i = start
      · rw [first, here]
      · exact gap i (by omega) before

theorem searchFrom_eq_none {fuel start : Nat} (failed : p.searchFrom text fuel start = none) :
    ∀ i, start ≤ i → i < start + fuel → p.matchAt? text i = none := by
  induction fuel generalizing start with
  | zero => exact fun i _ _ => by omega
  | succ fuel ih =>
    rw [searchFrom] at failed
    split at failed
    next => cases failed
    next here =>
      intro i from_ before
      by_cases first : i = start
      · rw [first, here]
      · exact ih failed i (by omega) (by omega)

theorem search?_eq_some {start : Nat} {s : Span} (found : p.search? text start = some s) :
    p.matchAt? text s.start = some s ∧ start ≤ s.start ∧ s.start ≤ text.size ∧
      ∀ i, start ≤ i → i < s.start → p.matchAt? text i = none := by
  obtain ⟨there, after, within, gap⟩ := searchFrom_eq_some found
  exact ⟨there, after, by omega, gap⟩

theorem search?_eq_none {start : Nat} (failed : p.search? text start = none) :
    ∀ i, start ≤ i → i ≤ text.size → p.matchAt? text i = none :=
  fun i from_ within => searchFrom_eq_none failed i from_ (by omega)

end Search

end SiteSurvey.Pattern
