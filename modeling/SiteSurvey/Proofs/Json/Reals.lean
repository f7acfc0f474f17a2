import Mathlib.Algebra.Group.Nat.Defs
import SiteSurvey.Proofs.Json.Numbers

set_option autoImplicit false

namespace SiteSurvey

theorem Text.ofString_append (s t : String) : Text.ofString (s ++ t) = Text.ofString s ++ Text.ofString t := by
  rw [ofString, String.toList_append, ofChars_append]
  rfl

theorem Text.ofString_ofList (cs : List Char) : Text.ofString (String.ofList cs) = Text.ofChars cs := by
  rw [ofString, String.toList_ofList]

namespace Real

/-- A number as it is read from its own text: without zeros at the end of its digits, but for the one after the
point of a number that has no fraction. -/
def settled : Real → Real
  | .decimal negative mantissa exponent =>
      if mantissa = 0 then .decimal negative 0 (-1)
      else
        let (m, e) := trimZeros (Nat.repr mantissa).length mantissa exponent
        if 0 ≤ e ∧ (Nat.repr m).length + e ≤ 16 then .decimal negative (m * 10 ^ (e.toNat + 1)) (-1)
        else .decimal negative m e
  | r => r

theorem trimZeros_ne_zero (fuel : Nat) {m : Nat} (e : Int) (nonzero : m ≠ 0) : (trimZeros fuel m e).1 ≠ 0 := by
  induction fuel generalizing m e with
  | zero => exact nonzero
  | succ fuel ih =>
    rw [trimZeros]
    split
    next zero =>
      simp only [Bool.and_eq_true, bne_iff_ne, beq_iff_eq] at zero
      exact ih (e + 1) (by omega)
    next => exact nonzero

end Real

namespace Json

theorem digitsValue_append (ds es : Text) :
    digitsValue (ds ++ es) = digitsValue ds * 10 ^ es.length + digitsValue es := by
  have from_ : ∀ n, es.foldl (fun n c => n * 10 + (c.val - 0x30)) n = n * 10 ^ es.length + digitsValue es := by
    induction es with
    | nil => simp [digitsValue]
    | cons c es ih =>
      intro n
      rw [digitsValue, List.foldl_cons, List.foldl_cons, ih, ih, List.length_cons, Nat.pow_succ]
      grind
  rw [digitsValue, List.foldl_append]
  exact from_ _

def zeros (n : Nat) : Text :=
  List.replicate n (CodePoint.ofChar '0')

theorem isDigit_zeros {n : Nat} {d : CodePoint} (found : d ∈ zeros n) : isDigit d = true := by
  rw [List.eq_of_mem_replicate found]
  rfl

theorem digitsValue_zeros (n : Nat) : digitsValue (zeros n) = 0 := by
  induction n with
  | zero => rfl
  | succ n ih =>
    rw [zeros, List.replicate_succ', digitsValue_append]
    change digitsValue (zeros n) * _ + 0 = 0
    rw [ih, Nat.zero_mul]

theorem ofChars_replicate (n : Nat) : Text.ofChars (List.replicate n '0') = zeros n :=
  List.map_replicate

/-- A text after a sign is that of a number with a fraction or a power of ten. -/
def Written (negative : Bool) (body : Text) (r : Real) : Prop :=
  ∃ n : Numeral, n.text = (if negative then CodePoint.ofChar '-' :: body else body) ∧ n.value = .real r

section Shapes

variable {negative : Bool} {m k : Nat}

theorem written_of_parts (power : Option Int) {body whole fraction : Text} {mantissa : Nat} {exponent : Int}
    (leads : Leads whole) (all : ∀ d ∈ fraction, isDigit d = true) (marked : fraction ≠ [] ∨ power ≠ none)
    (shape : body = whole ++ (fractionText fraction ++ powerText power))
    (value : digitsValue (whole ++ fraction) = mantissa) (places : power.getD 0 - fraction.length = exponent) :
    Written negative body (.decimal negative mantissa exponent) := by
  subst shape value places
  refine ⟨{ negative, whole, fraction, power, leads, isDigit_fraction := all }, rfl, ?_⟩
  have broken : (fraction.isEmpty && power.isNone) = false := by
    rcases marked with some_ | some_
    · simp [some_]
    · simp [Option.isSome_iff_ne_none.mpr some_]
  simp only [Numeral.value, numberOf, broken, Bool.false_eq_true, if_false]

theorem fractionText_eq {fraction : Text} (some_ : fraction ≠ []) :
    fractionText fraction = CodePoint.ofChar '.' :: fraction := by
  rw [fractionText, if_neg (by simpa using some_)]

theorem leads_zero : Leads (zeros 1) :=
  leads_digits 0

theorem leads_of_digits (positive : 0 < m) {ds : Text} (all : ∀ d ∈ ds, isDigit d = true)
    (begins : ds.head? = (digits m).head?) : Leads ds := by
  obtain ⟨c, others, shape, nonzero⟩ := digits_cons positive
  rw [shape, List.head?_cons] at begins
  obtain ⟨tail, rfl⟩ := List.head?_eq_some_iff.mp begins
  refine ⟨c, tail, rfl, all, fun zero => ?_⟩
  rw [nonzero] at zero
  cases zero

theorem written_zero : Written negative (Text.ofString "0.0") (.decimal negative 0 (-1)) := by
  have some_ : zeros 1 ≠ [] := List.cons_ne_nil _ _
  exact written_of_parts none leads_zero (fun _ => isDigit_zeros) (.inl some_)
    (by rw [fractionText_eq some_]; rfl) (by decide) rfl

theorem written_below (m k : Nat) :
    Written negative (Text.ofString "0." ++ (zeros k ++ digits m))
      (.decimal negative m (-(k + (digits m).length))) := by
  -- One zero stands before the point, and all the digits after it.
  have all : ∀ d ∈ zeros k ++ digits m, isDigit d = true := by
    intro d found
    rcases List.mem_append.mp found with zero | digit
    · exact isDigit_zeros zero
    · exact isDigit_of_mem_digits digit
  have some_ : zeros k ++ digits m ≠ [] := by simp [digits_ne_nil]
  refine written_of_parts none leads_zero all (.inl some_) ?_ ?_ ?_
  · rw [fractionText_eq some_, powerText, List.append_nil]
    rfl
  · simp [digitsValue_append, digitsValue_zeros, digitsValue_digits]
  · simp [zeros]

theorem written_above (positive : 0 < m) (k : Nat) :
    Written negative (digits m ++ zeros k ++ Text.ofString ".0") (.decimal negative (m * 10 ^ (k + 1)) (-1)) := by
  -- All the digits stand before the point, and one zero after it.
  have all : ∀ d ∈ digits m ++ zeros k, isDigit d = true := by
    intro d found
    rcases List.mem_append.mp found with digit | zero
    · exact isDigit_of_mem_digits digit
    · exact isDigit_zeros zero
  have begins : (digits m ++ zeros k).head? = (digits m).head? := by
    obtain ⟨c, ds, shape, _⟩ := digits_cons positive
    rw [shape]
    rfl
  have some_ : zeros 1 ≠ [] := List.cons_ne_nil _ _
  refine written_of_parts none (leads_of_digits positive all begins) (fun _ => isDigit_zeros) (.inl some_)
    ?_ ?_ rfl
  · rw [fractionText_eq some_, powerText, List.append_nil]
    rfl
  · have length : (zeros k).length = k := List.length_replicate
    simp only [digitsValue_append, digitsValue_zeros, digitsValue_digits, length, Nat.add_zero]
    rw [Nat.pow_succ, Nat.mul_assoc]
    rfl

theorem leads_take (positive : 0 < m) (some_ : 0 < k) : Leads ((digits m).take k) := by
  refine leads_of_digits positive (fun d found => isDigit_of_mem_digits (List.mem_of_mem_take found)) ?_
  rw [List.head?_take, if_neg (by omega)]

theorem written_between (positive : 0 < m) (some_ : 0 < k) (inside : k < (digits m).length) :
    Written negative ((digits m).take k ++ Text.ofString "." ++ (digits m).drop k)
      (.decimal negative m (k - (digits m).length)) := by
  have more : (digits m).drop k ≠ [] := by
    rw [Ne, List.drop_eq_nil_iff]
    omega
  refine written_of_parts none (leads_take positive some_)
    (fun d found => isDigit_of_mem_digits (List.mem_of_mem_drop found)) (.inl more) ?_ ?_ ?_
  · rw [fractionText_eq more, powerText, List.append_nil, List.append_assoc]
    rfl
  · rw [List.take_append_drop, digitsValue_digits]
  · rw [List.length_drop, Option.getD_none]
    omega

theorem written_power (positive : 0 < m) (p : Int) :
    Written negative ((digits m).take 1 ++ (fractionText ((digits m).drop 1) ++ powerText (some p)))
      (.decimal negative m (p - ((digits m).length - 1))) := by
  have some_ : 0 < (digits m).length := List.length_pos_iff.mpr (digits_ne_nil m)
  refine written_of_parts (some p) (leads_take positive Nat.one_pos)
    (fun d found => isDigit_of_mem_digits (List.mem_of_mem_drop found)) (.inr (Option.some_ne_none p)) rfl ?_ ?_
  · rw [List.take_append_drop, digitsValue_digits]
  · rw [List.length_drop, Option.getD_some]
    omega

end Shapes

theorem ofString_repr (n : Nat) : Text.ofString (Nat.repr n) = digits n := by
  simp [Text.ofString, digits]

theorem ofChars_repr (n : Nat) : Text.ofChars (Nat.repr n).toList = digits n :=
  ofString_repr n

theorem length_repr (n : Nat) : (Nat.repr n).toList.length = (digits n).length := by
  rw [← ofChars_repr, Text.ofChars, List.length_map]

theorem ofString_take (n k : Nat) : Text.ofString (String.ofList ((Nat.repr n).toList.take k)) = (digits n).take k := by
  rw [Text.ofString_ofList, Text.ofChars, List.map_take, ← Text.ofChars, ofChars_repr]

theorem ofString_drop (n k : Nat) : Text.ofString (String.ofList ((Nat.repr n).toList.drop k)) = (digits n).drop k := by
  rw [Text.ofString_ofList, Text.ofChars, List.map_drop, ← Text.ofChars, ofChars_repr]

theorem written_positional (negative : Bool) {m : Nat} (point : Int) (positive : 0 < m) :
    Written negative (Text.ofString (Real.positional (Nat.repr m).toList point))
      (if (digits m).length ≤ point then .decimal negative (m * 10 ^ ((point - (digits m).length).toNat + 1)) (-1)
        else .decimal negative m (point - (digits m).length)) := by
  have some_ : 0 < (digits m).length := List.length_pos_iff.mpr (digits_ne_nil m)
  rw [Real.positional, length_repr]
  by_cases below : point ≤ 0
  · have places : point - (digits m).length = -((-point).toNat + (digits m).length : Int) := by omega
    have padded : Text.ofString (String.ofList (List.replicate (-point).toNat '0' ++ (Nat.repr m).toList)) =
        zeros (-point).toNat ++ digits m := by
      rw [Text.ofString_ofList, Text.ofChars_append, ofChars_replicate, ofChars_repr]
    rw [if_pos below, if_neg (by omega), places, Text.ofString_append, padded]
    exact written_below m (-point).toNat
  rw [if_neg below]
  by_cases above : (digits m).length ≤ point
  · have places : (point - (digits m).length).toNat = point.toNat - (digits m).length := by omega
    rw [if_pos above, if_pos above, places, Text.ofString_append, Text.ofString_ofList, Text.ofChars_append,
      ofChars_replicate, ofChars_repr]
    exact written_above positive _
  · have places : point - (digits m).length = (point.toNat : Int) - (digits m).length := by omega
    rw [if_neg above, if_neg above, places, Text.ofString_append, Text.ofString_append, ofString_take, ofString_drop]
    exact written_between positive (by omega) (by omega)

theorem written_scientific (negative : Bool) {m : Nat} (p : Int) (positive : 0 < m) :
    Written negative (Text.ofString (Real.scientific (Nat.repr m).toList p))
      (.decimal negative m (p - ((digits m).length - 1))) := by
  have some_ : 0 < (digits m).length := List.length_pos_iff.mpr (digits_ne_nil m)
  have fraction : Text.ofString (if (Nat.repr m).toList.length == 1 then ""
      else "." ++ String.ofList ((Nat.repr m).toList.drop 1)) = fractionText ((digits m).drop 1) := by
    rw [length_repr, fractionText]
    by_cases single : (digits m).length = 1
    · have none : (digits m).drop 1 = [] := List.drop_eq_nil_iff.mpr (by omega)
      rw [if_pos (by simpa using single), none]
      rfl
    · have more : (digits m).drop 1 ≠ [] := fun none => by
        have short := List.drop_eq_nil_iff.mp none
        omega
      rw [if_neg (by simpa using single), if_neg (by simpa using more), Text.ofString_append, ofString_drop]
      rfl
  have power : Text.ofString (if (Nat.repr p.natAbs).length < 2 then "0" ++ Nat.repr p.natAbs
      else Nat.repr p.natAbs) = powerDigits p.natAbs := by
    rw [powerDigits, ← String.length_toList, length_repr]
    split
    · rw [Text.ofString_append, ofString_repr]
      rfl
    · exact ofString_repr _
  have sign : Text.ofString (if p < 0 then "-" else "+") = [CodePoint.ofChar (if p < 0 then '-' else '+')] := by
    split
    · rfl
    · rfl
  have text : Text.ofString (Real.scientific (Nat.repr m).toList p) =
      (digits m).take 1 ++ (fractionText ((digits m).drop 1) ++ powerText (some p)) := by
    rw [Real.scientific]
    simp only [Text.ofString_append, fraction, power, sign, ofString_take, List.append_assoc]
    rfl
  rw [text]
  exact written_power positive p

theorem written_unsignedText (negative : Bool) (mantissa : Nat) (exponent : Int) :
    Written negative (Text.ofString (Real.unsignedText mantissa exponent))
      (Real.decimal negative mantissa exponent).settled := by
  rw [Real.unsignedText, Real.settled]
  by_cases zero : mantissa = 0
  · rw [if_pos zero, if_pos (by simpa using zero)]
    exact written_zero
  rw [if_neg zero, if_neg (by simpa using zero)]
  have nonzero := Real.trimZeros_ne_zero (Nat.repr mantissa).length exponent zero
  generalize Real.trimZeros (Nat.repr mantissa).length mantissa exponent = trimmed at nonzero
  obtain ⟨m, e⟩ := trimmed
  dsimp only at nonzero ⊢
  have positive : 0 < m := Nat.pos_of_ne_zero nonzero
  have moved : ((digits m).length : Int) + e - (digits m).length = e := by omega
  rw [← String.length_toList, length_repr]
  -- Up to sixteen places a number is written out, and one without a fraction gets its zeros back.
  by_cases near : (-4 < ((digits m).length : Int) + e && ((digits m).length : Int) + e ≤ 16) = true
  · have written := written_positional negative ((digits m).length + e) positive
    rw [if_pos near]
    rw [moved] at written
    simp only [Bool.and_eq_true, decide_eq_true_eq] at near
    have whole : ((digits m).length : Int) ≤ (digits m).length + e ↔
        0 ≤ e ∧ ((digits m).length : Int) + e ≤ 16 := by omega
    simp only [whole] at written
    exact written
  · have written := written_scientific negative ((digits m).length + e - 1) positive
    have places : ((digits m).length : Int) + e - 1 - ((digits m).length - 1) = e := by omega
    have some_ : 0 < (digits m).length := List.length_pos_iff.mpr (digits_ne_nil m)
    rw [if_neg near]
    rw [places] at written
    simp only [Bool.and_eq_true, decide_eq_true_eq] at near
    rw [if_neg (by omega)]
    exact written

theorem numeral_decimal (negative : Bool) (mantissa : Nat) (exponent : Int) :
    ∃ n : Numeral, n.text = Text.ofString (Real.decimal negative mantissa exponent).jsonText ∧
      n.value = .real (Real.decimal negative mantissa exponent).settled := by
  obtain ⟨n, text, value⟩ := written_unsignedText negative mantissa exponent
  refine ⟨n, ?_, value⟩
  have same : (Real.decimal negative mantissa exponent).jsonText =
      (if negative then "-" else "") ++ Real.unsignedText mantissa exponent := rfl
  rw [text, same, Text.ofString_append]
  cases negative with
  | false => rfl
  | true => rfl

end Json

end SiteSurvey
