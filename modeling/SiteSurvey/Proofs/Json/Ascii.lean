import SiteSurvey.Proofs.Json.RoundTrip

set_option autoImplicit false

namespace SiteSurvey

def CodePoint.isPrintable (c : CodePoint) : Bool :=
  0x20 ≤ c.val && c.val ≤ 0x7E

/-- A text on one line that can be sent anywhere. -/
def Text.isPrintable (t : Text) : Bool :=
  t.all CodePoint.isPrintable

namespace Text

@[simp] theorem isPrintable_nil : isPrintable [] = true := rfl

@[simp] theorem isPrintable_cons (c : CodePoint) (t : Text) :
    isPrintable (c :: t) = (c.isPrintable && isPrintable t) := List.all_cons

@[simp] theorem isPrintable_append (t u : Text) : isPrintable (t ++ u) = (isPrintable t && isPrintable u) :=
  List.all_append

theorem isPrintable_flatMap {f : CodePoint → Text} (each : ∀ c, isPrintable (f c) = true) (t : Text) :
    isPrintable (t.flatMap f) = true := by
  induction t with
  | nil => rfl
  | cons c t ih => rw [List.flatMap_cons, isPrintable_append, each, ih, Bool.and_true]

end Text

namespace Json

open Text

theorem isPrintable_of_isDigit {c : CodePoint} (digit : isDigit c = true) : c.isPrintable = true := by
  simp only [isDigit, CodePoint.isPrintable, Bool.and_eq_true, decide_eq_true_eq] at digit ⊢
  omega

theorem isPrintable_digits {ds : Text} (all : ∀ d ∈ ds, isDigit d = true) : isPrintable ds = true :=
  List.all_eq_true.mpr fun d found => isPrintable_of_isDigit (all d found)

theorem isPrintable_fractionText {fraction : Text} (all : ∀ d ∈ fraction, isDigit d = true) :
    isPrintable (fractionText fraction) = true := by
  unfold fractionText
  split
  · rfl
  · rw [isPrintable_cons, isPrintable_digits all]
    rfl

theorem isPrintable_powerText (power : Option Int) : isPrintable (powerText power) = true := by
  cases power with
  | none => rfl
  | some p =>
    rw [powerText, isPrintable_cons, isPrintable_cons, isPrintable_digits (isDigit_powerDigits _)]
    split
    · rfl
    · rfl

theorem Numeral.isPrintable_text (n : Numeral) : isPrintable n.text = true := by
  obtain ⟨_, _, _, all, _⟩ := n.leads
  have body : isPrintable n.body = true := by
    rw [Numeral.body, isPrintable_append, isPrintable_append, isPrintable_digits all,
      isPrintable_fractionText n.isDigit_fraction, isPrintable_powerText]
    rfl
  rw [Numeral.text]
  split
  · rw [isPrintable_cons, body]
    rfl
  · exact body

theorem isPrintable_jsonText (r : Real) : isPrintable (Text.ofString r.jsonText) = true := by
  cases r with
  | decimal negative mantissa exponent =>
    obtain ⟨n, text, _⟩ := numeral_decimal negative mantissa exponent
    rw [← text]
    exact n.isPrintable_text
  | infinite negative =>
    cases negative with
    | false => rfl
    | true => rfl
  | undefined => rfl

theorem isPrintable_unicodeUnit (n : Nat) : isPrintable (unicodeUnit n) = true := by
  have digit : ∀ m, (hexDigit (m % 16)).isPrintable = true := by
    intro m
    have value : (hexDigit (m % 16)).val = if m % 16 < 10 then 0x30 + m % 16 else 0x61 + (m % 16 - 10) := by
      rw [hexDigit, CodePoint.ofNat, dif_pos (by split <;> omega)]
    simp only [CodePoint.isPrintable, value, Bool.and_eq_true, decide_eq_true_eq]
    split <;> omega
  simp only [unicodeUnit_eq, hexDigits, isPrintable_cons, digit, isPrintable_nil]
  rfl

theorem isPrintable_escaped (c : CodePoint) : isPrintable (escaped true c) = true := by
  unfold escaped
  split
  case h_8 =>
    split
    · exact isPrintable_unicodeUnit _
    next noControl =>
      rw [Bool.true_and]
      split
      · split
        · exact isPrintable_unicodeUnit _
        · rw [isPrintable_append, isPrintable_unicodeUnit, isPrintable_unicodeUnit]
          rfl
      -- What is written as it is lies between the blank and the delete character.
      next within =>
        simp only [decide_eq_true_eq] at within
        simp only [isPrintable_cons, isPrintable_nil, Bool.and_true, CodePoint.isPrintable, Bool.and_eq_true,
          decide_eq_true_eq]
        omega
  all_goals rfl

theorem isPrintable_quoted (t : Text) : isPrintable (quoted true t) = true := by
  rw [quoted_eq, isPrintable_cons, isPrintable_append, isPrintable_flatMap isPrintable_escaped]
  rfl

mutual

/-- A document on one line holds printable characters alone, whatever its value is. -/
theorem isPrintable_printAt : ∀ (depth : Nat) (v : Json), isPrintable (printAt .compact depth v) = true
  | _, .null => rfl
  | _, .bool true => rfl
  | _, .bool false => rfl
  | _, .int n => by
    rw [printAt, ← Numeral.text_ofInt]
    exact (Numeral.ofInt n).isPrintable_text
  | _, .real r => by
    rw [printAt]
    exact isPrintable_jsonText r
  | _, .string s => by
    rw [printAt]
    exact isPrintable_quoted s
  | _, .array [] => rfl
  | depth, .array (v :: items) => by
    rw [printAt]
    simp only [isPrintable_append, isPrintable_printAt (depth + 1) v, isPrintable_printItems (depth + 1) items]
    rfl
  | _, .object [] => rfl
  | depth, .object ((k, v) :: members) => by
    rw [printAt]
    simp only [isPrintable_append, isPrintable_quoted k, isPrintable_printAt (depth + 1) v,
      isPrintable_printMembers (depth + 1) members, show Layout.compact.ascii = true from rfl]
    rfl

theorem isPrintable_printItems :
    ∀ (depth : Nat) (items : List Json), isPrintable (printItems .compact depth items) = true
  | _, [] => rfl
  | depth, v :: items => by
    rw [printItems]
    simp only [isPrintable_append, isPrintable_printAt depth v, isPrintable_printItems depth items]
    rfl

theorem isPrintable_printMembers :
    ∀ (depth : Nat) (members : List (Text × Json)), isPrintable (printMembers .compact depth members) = true
  | _, [] => rfl
  | depth, (k, v) :: members => by
    rw [printMembers]
    simp only [isPrintable_append, isPrintable_quoted k, isPrintable_printAt depth v,
      isPrintable_printMembers depth members, show Layout.compact.ascii = true from rfl]
    rfl

end

end Json

end SiteSurvey
