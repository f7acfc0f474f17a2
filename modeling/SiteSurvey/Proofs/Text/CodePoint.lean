import SiteSurvey.Text.Basic

set_option autoImplicit false

namespace SiteSurvey

section Ascii

variable {c : Char}

theorem isDigit_iff : c.isDigit = true ↔ 48 ≤ c.toNat ∧ c.toNat ≤ 57 := by
  have shape : c.isDigit = (decide (c.val ≥ 48) && decide (c.val ≤ 57)) := rfl
  simp [shape, UInt32.le_iff_toNat_le]

theorem isUpper_iff : c.isUpper = true ↔ 65 ≤ c.toNat ∧ c.toNat ≤ 90 := by
  have shape : c.isUpper = decide (c.val ≥ 65 ∧ c.val ≤ 90) := rfl
  simp [shape, UInt32.le_iff_toNat_le]

theorem isLower_iff : c.isLower = true ↔ 97 ≤ c.toNat ∧ c.toNat ≤ 122 := by
  have shape : c.isLower = (decide (c.val ≥ 97) && decide (c.val ≤ 122)) := rfl
  simp [shape, UInt32.le_iff_toNat_le]

theorem isAlphanum_iff : c.isAlphanum = true ↔ c.isUpper = true ∨ c.isLower = true ∨ c.isDigit = true := by
  have shape : c.isAlphanum = (c.isUpper || c.isLower || c.isDigit) := rfl
  rw [shape, Bool.or_eq_true, Bool.or_eq_true, or_assoc]

end Ascii

namespace CodePoint

@[ext] theorem ext {c d : CodePoint} (same : c.val = d.val) : c = d := by
  cases c
  cases d
  simp only at same
  subst same
  rfl

theorem val_ofChar (d : Char) : (ofChar d).val = d.toNat := rfl

@[simp] theorem ofNat_val (c : CodePoint) : ofNat c.val = c := by
  simp [ofNat, c.isLt]

theorem is_iff {c : CodePoint} {d : Char} : c.is d = true ↔ c = ofChar d := by
  constructor
  · intro same
    ext
    exact beq_iff_eq.mp same
  · rintro rfl
    exact beq_iff_eq.mpr rfl

theorem toNat_bounds (d : Char) : d.toNat < 0xD800 ∨ 0xDFFF < d.toNat ∧ d.toNat < 0x110000 := by
  have valid := d.valid
  simp only [UInt32.isValidChar, Nat.isValidChar] at valid
  simp only [Char.toNat]
  omega

@[simp] theorem isSurrogate_ofChar (d : Char) : (ofChar d).isSurrogate = false := by
  have bounds := toNat_bounds d
  rw [Bool.eq_false_iff]
  intro inside
  simp only [isSurrogate, Bool.and_eq_true, decide_eq_true_eq] at inside
  rw [val_ofChar] at inside
  omega

@[simp] theorem char?_ofChar (d : Char) : (ofChar d).char? = some d := by
  simp [char?, val_ofChar]

theorem is_ofChar (c d : Char) : (ofChar c).is d = (c == d) := by
  rw [Bool.eq_iff_iff, is_iff, beq_iff_eq]
  refine ⟨fun same => ?_, congrArg _⟩
  exact Option.some.inj (by rw [← char?_ofChar c, same, char?_ofChar])

theorem ofChar_toChar {c : CodePoint} (whole : c.isSurrogate = false) : ofChar (Char.ofNat c.val) = c := by
  have bound := c.isLt
  have valid : c.val.isValidChar := by
    simp only [isSurrogate, Bool.and_eq_false_iff, decide_eq_false_iff_not] at whole
    simp only [Nat.isValidChar]
    omega
  ext
  rw [val_ofChar, Char.ofNat, dif_pos valid]
  rfl

theorem char?_eq_some_iff {c : CodePoint} {d : Char} : c.char? = some d ↔ c = ofChar d := by
  constructor
  · intro found
    unfold char? at found
    split at found
    · simp at found
    · rename_i whole
      have same := Option.some.inj found
      rw [← same]
      exact (ofChar_toChar (by simpa using whole)).symm
  · rintro rfl
    exact char?_ofChar d

end CodePoint

namespace Text

theorem ofChars_cons (c : Char) (cs : List Char) : ofChars (c :: cs) = CodePoint.ofChar c :: ofChars cs :=
  List.map_cons

@[simp] theorem toChars_ofChars (cs : List Char) : toChars (ofChars cs) = cs := by
  simp [toChars, ofChars, Function.comp_def]

@[simp] theorem hasSurrogate_ofChars (cs : List Char) : hasSurrogate (ofChars cs) = false := by
  simp [hasSurrogate, ofChars]

@[simp] theorem hasSurrogate_ofString (s : String) : hasSurrogate (ofString s) = false :=
  hasSurrogate_ofChars _

@[simp] theorem hasSurrogate_append (t u : Text) :
    hasSurrogate (t ++ u) = (hasSurrogate t || hasSurrogate u) := by
  simp [hasSurrogate]

@[simp] theorem hasSurrogate_cons (c : CodePoint) (t : Text) :
    hasSurrogate (c :: t) = (c.isSurrogate || hasSurrogate t) := by
  simp [hasSurrogate]

theorem ofChars_toChars {t : Text} (whole : hasSurrogate t = false) : ofChars (toChars t) = t := by
  induction t with
  | nil => rfl
  | cons c t ih =>
    simp only [hasSurrogate_cons, Bool.or_eq_false_iff] at whole
    have first : CodePoint.ofChar (c.char?.getD '�') = c := by
      simp only [CodePoint.char?, whole.1, Bool.false_eq_true, if_false, Option.getD_some]
      exact CodePoint.ofChar_toChar whole.1
    have others := ih whole.2
    simp only [toChars, ofChars, List.map_cons] at others ⊢
    rw [first, others]

end Text

end SiteSurvey
