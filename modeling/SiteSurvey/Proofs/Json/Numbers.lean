import SiteSurvey.Json.Printer
import SiteSurvey.Json.Reader
import SiteSurvey.Proofs.Text.CodePoint

set_option autoImplicit false

namespace SiteSurvey.Json

def Ends (rest : Text) : Prop :=
  ∀ c ∈ rest.head?, isDigit c = false ∧ c.is '.' = false ∧ c.is 'e' = false ∧ c.is 'E' = false

def digits (n : Nat) : Text :=
  Text.ofChars (Nat.toDigits 10 n)

theorem digits_ne_nil (n : Nat) : digits n ≠ [] := by
  simp [digits, Text.ofChars, Nat.toDigits_ne_nil]

theorem isDigit_of_mem_digits {n : Nat} {c : CodePoint} (found : c ∈ digits n) : isDigit c = true := by
  obtain ⟨d, inside, rfl⟩ := List.mem_map.mp found
  have digit := Nat.isDigit_of_mem_toDigits (by decide) (by decide) inside
  rw [Char.isDigit_iff_toNat] at digit
  simp only [isDigit, Bool.and_eq_true, decide_eq_true_eq]
  exact digit

theorem digitsValue_digits (n : Nat) : digitsValue (digits n) = n := by
  have folded : digitsValue (digits n) = Nat.ofDigitChars 10 (Nat.toDigits 10 n) 0 := by
    simp only [digitsValue, digits, Text.ofChars, List.foldl_map, CodePoint.val_ofChar, Nat.ofDigitChars,
      Nat.mul_comm]
    rfl
  rw [folded, Nat.ofDigitChars_ten_toDigits]

theorem digitChar_ne_zero {n : Nat} (positive : 0 < n) (small : n < 10) : n.digitChar ≠ '0' := by
  have cases : n = 1 ∨ n = 2 ∨ n = 3 ∨ n = 4 ∨ n = 5 ∨ n = 6 ∨ n = 7 ∨ n = 8 ∨ n = 9 := by omega
  rcases cases with rfl | rfl | rfl | rfl | rfl | rfl | rfl | rfl | rfl <;> decide

theorem head?_toDigits_ne_zero {n : Nat} (positive : 0 < n) :
    (Nat.toDigits 10 n).head? ≠ some '0' := by
  induction n using Nat.strongRecOn with
  | ind n ih =>
    by_cases small : n < 10
    · rw [Nat.toDigits_of_lt_base small]
      simpa using digitChar_ne_zero positive small
    · rw [Nat.toDigits_of_base_le (by decide) (by omega), 
        List.head?_append, Option.or_of_isSome (List.isSome_head?.mpr Nat.toDigits_ne_nil)]
      exact ih (n / 10) (by omega) (by omega)

theorem ends_nil : Ends [] := by
  simp [Ends]

theorem ofChar_beq (d : Char) (c : CodePoint) : (CodePoint.ofChar d == c) = c.is d := by
  rw [Bool.eq_iff_iff, beq_iff_eq, CodePoint.is_iff]
  exact eq_comm

theorem starts_cons {word : String} {d : Char} {ds : List Char} (shape : word.toList = d :: ds)
    (c : CodePoint) (t : Text) (offset : Nat) :
    Rest.starts { text := c :: t, offset } word = (c.is d && (Text.ofChars ds).isPrefixOf t) := by
  simp only [Rest.starts, Text.ofString, Text.ofChars, shape, List.map_cons, List.isPrefixOf, ofChar_beq]

theorem starts_single (word : String) (d : Char) (single : word.toList = [d]) (c : CodePoint) (t : Text)
    (offset : Nat) : Rest.starts { text := c :: t, offset } word = c.is d := by
  rw [starts_cons single]
  exact Bool.and_true _

theorem is_false_of_isDigit {c : CodePoint} {d : Char} (digit : isDigit c = true)
    (other : d.isDigit = false) : c.is d = false := by
  rw [Bool.eq_false_iff]
  intro same
  rw [CodePoint.is_iff.mp same] at digit
  simp only [isDigit, Bool.and_eq_true, decide_eq_true_eq] at digit
  have both : d.isDigit = true := Char.isDigit_iff_toNat.mpr digit
  rw [other] at both
  exact Bool.false_ne_true both

theorem ofInt_eq (n : Int) :
    Text.ofInt n = if n < 0 then CodePoint.ofChar '-' :: digits n.natAbs else digits n.natAbs := by
  cases n with
  | ofNat n =>
    rw [if_neg (by simp)]
    simp [Text.ofInt, Text.ofString, digits]
  | negSucc n =>
    rw [if_pos (by omega)]
    simp [Text.ofInt, Text.ofString, Text.ofChars, digits]

theorem takeWhile_digits {ds tail : Text} (all : ∀ d ∈ ds, isDigit d = true)
    (stops : ∀ c ∈ tail.head?, isDigit c = false) : (ds ++ tail).takeWhile isDigit = ds := by
  have none : tail.takeWhile isDigit = [] := by
    cases tail with
    | nil => rfl
    | cons c tail => simp [stops c rfl]
  rw [List.takeWhile_append_of_pos all, none, List.append_nil]

def Leads (whole : Text) : Prop :=
  ∃ c ds, whole = c :: ds ∧ (∀ d ∈ whole, isDigit d = true) ∧ (c.is '0' = true → ds = [])

def fractionText (fraction : Text) : Text :=
  if fraction.isEmpty then [] else CodePoint.ofChar '.' :: fraction

def powerDigits (n : Nat) : Text :=
  if (digits n).length < 2 then CodePoint.ofChar '0' :: digits n else digits n

def powerText : Option Int → Text
  | none => []
  | some p => CodePoint.ofChar 'e' :: CodePoint.ofChar (if p < 0 then '-' else '+') :: powerDigits p.natAbs

/-- A number as it is written: a sign, digits, more of them after a point, and a power of ten. -/
structure Numeral where
  negative : Bool
  whole : Text
  fraction : Text
  power : Option Int
  leads : Leads whole
  isDigit_fraction : ∀ d ∈ fraction, isDigit d = true

section Parts

variable {whole fraction rest : Text}

theorem Leads.taken (leads : Leads whole) {tail : Text} (stops : ∀ c ∈ tail.head?, isDigit c = false) :
    wholeDigits (whole ++ tail) = whole := by
  obtain ⟨c, ds, rfl, all, alone⟩ := leads
  rw [List.cons_append, wholeDigits]
  split
  next zero => rw [alone zero]
  next => rw [← List.cons_append, takeWhile_digits all stops]

theorem fractionDigits_fractionText (all : ∀ d ∈ fraction, isDigit d = true) {tail : Text}
    (stops : ∀ c ∈ tail.head?, isDigit c = false ∧ c.is '.' = false) :
    fractionDigits (fractionText fraction ++ tail) = fraction := by
  unfold fractionText
  split
  next none =>
    rw [List.isEmpty_iff.mp none, List.nil_append]
    cases tail with
    | nil => rfl
    | cons c tail => rw [fractionDigits, (stops c rfl).2, if_neg Bool.false_ne_true]
  next =>
    have point : (CodePoint.ofChar '.').is '.' = true := rfl
    rw [List.cons_append, fractionDigits, point, if_pos rfl]
    exact takeWhile_digits all fun c first => (stops c first).1

theorem isDigit_powerDigits (n : Nat) : ∀ d ∈ powerDigits n, isDigit d = true := by
  unfold powerDigits
  split
  · intro d found
    rcases List.mem_cons.mp found with rfl | inside
    · rfl
    · exact isDigit_of_mem_digits inside
  · exact fun d => isDigit_of_mem_digits

theorem digitsValue_powerDigits (n : Nat) : digitsValue (powerDigits n) = n := by
  unfold powerDigits
  split
  · exact digitsValue_digits n
  · exact digitsValue_digits n

theorem powerDigits_ne_nil (n : Nat) : powerDigits n ≠ [] := by
  unfold powerDigits
  split
  · exact List.cons_ne_nil _ _
  · exact digits_ne_nil n

theorem power?_powerText (power : Option Int) (ends : Ends rest) :
    power? (powerText power ++ rest) = power.map fun p => (p, (powerText (some p)).length) := by
  cases power with
  | none =>
    cases rest with
    | nil => rfl
    | cons c rest =>
      obtain ⟨_, _, lower, upper⟩ := ends c rfl
      simp [powerText, power?, lower, upper]
  | some p =>
    have taken : (powerDigits p.natAbs ++ rest).takeWhile isDigit = powerDigits p.natAbs :=
      takeWhile_digits (isDigit_powerDigits _) fun c first => (ends c first).1
    have some_ : (powerDigits p.natAbs).isEmpty = false := by simpa using powerDigits_ne_nil p.natAbs
    have letter : (CodePoint.ofChar 'e').is 'e' = true := rfl
    have minus : (CodePoint.ofChar '-').is '-' = true := rfl
    have plus : (CodePoint.ofChar '+').is '+' = true := rfl
    have other : (CodePoint.ofChar '+').is '-' = false := rfl
    by_cases down : p < 0
    · have back : -(p.natAbs : Int) = p := by omega
      simp only [powerText, down, if_true, List.cons_append, power?, letter, Bool.true_or, List.head?_cons,
        Option.any_some, minus, Bool.or_true, List.drop_succ_cons, List.drop_zero, taken, some_, Bool.false_eq_true,
        if_false, digitsValue_powerDigits, back, Option.map_some, List.length_cons]
    · have back : (p.natAbs : Int) = p := by omega
      simp only [powerText, down, if_false, List.cons_append, power?, letter, Bool.true_or, if_true, List.head?_cons,
        Option.any_some, plus, other, List.drop_succ_cons, List.drop_zero, taken, some_, Bool.false_eq_true,
        digitsValue_powerDigits, back, Option.map_some, List.length_cons]

theorem head?_powerText (power : Option Int) (ends : Ends rest) :
    ∀ c ∈ (powerText power ++ rest).head?, isDigit c = false ∧ c.is '.' = false := by
  cases power with
  | none => exact fun c first => ⟨(ends c first).1, (ends c first).2.1⟩
  | some p =>
    intro c first
    cases first
    exact ⟨rfl, rfl⟩

theorem head?_fractionText (fraction : Text) (power : Option Int) (ends : Ends rest) :
    ∀ c ∈ (fractionText fraction ++ (powerText power ++ rest)).head?, isDigit c = false := by
  unfold fractionText
  split
  · exact fun c first => (head?_powerText power ends c first).1
  · intro c first
    cases first
    rfl

theorem Rest.drop_append (t tail : Text) (offset : Nat) :
    Rest.drop { text := t ++ tail, offset } t.length = { text := tail, offset := offset + t.length } := by
  rw [Rest.drop, List.drop_left]

theorem drop_fractionText (fraction tail : Text) (offset : Nat) :
    (if fraction.isEmpty then { text := fractionText fraction ++ tail, offset }
      else Rest.drop { text := fractionText fraction ++ tail, offset } (fraction.length + 1)) =
      { text := tail, offset := offset + (fractionText fraction).length } := by
  unfold fractionText
  split
  · rfl
  · exact Rest.drop_append _ tail offset

theorem drop_powerText (power : Option Int) (rest : Text) (offset : Nat) :
    Rest.drop { text := powerText power ++ rest, offset }
        ((power.map fun p => (powerText (some p)).length).getD 0) =
      { text := rest, offset := offset + (powerText power).length } := by
  cases power with
  | none => rfl
  | some p => exact Rest.drop_append _ rest offset

end Parts

theorem word_head {w : String × Json} (found : w ∈ words) :
    ∃ d ds, w.1.toList = d :: ds ∧ d.isDigit = false ∧ (d = '-' → ds.head? = some 'I') := by
  simp only [words, List.mem_cons, List.not_mem_nil, or_false] at found
  rcases found with rfl | rfl | rfl | rfl | rfl | rfl
  all_goals exact ⟨_, _, rfl, rfl, by decide⟩

namespace Numeral

def body (n : Numeral) : Text :=
  n.whole ++ (fractionText n.fraction ++ powerText n.power)

def text (n : Numeral) : Text :=
  if n.negative then CodePoint.ofChar '-' :: n.body else n.body

def value (n : Numeral) : Json :=
  numberOf n.negative n.whole n.fraction n.power

theorem body_head (n : Numeral) : ∃ c t, n.body = c :: t ∧ isDigit c = true := by
  obtain ⟨c, ds, shape, all, _⟩ := n.leads
  refine ⟨c, ds ++ (fractionText n.fraction ++ powerText n.power), by rw [body, shape, List.cons_append], ?_⟩
  exact all c (by rw [shape]; exact List.mem_cons_self)

theorem text_head (n : Numeral) :
    ∃ c t, n.text = c :: t ∧ (isDigit c = true ∨ c = CodePoint.ofChar '-') := by
  obtain ⟨c, t, shape, digit⟩ := n.body_head
  unfold text
  split
  · exact ⟨_, _, rfl, .inr rfl⟩
  · exact ⟨c, t, shape, .inl digit⟩

theorem starts_minus (n : Numeral) (rest : Text) (offset : Nat) :
    Rest.starts { text := n.text ++ rest, offset } "-" = n.negative := by
  unfold text
  split
  next negative =>
    rw [List.cons_append, starts_single "-" '-' rfl, negative]
    rfl
  next positive =>
    obtain ⟨c, t, shape, digit⟩ := n.body_head
    rw [shape, List.cons_append, starts_single "-" '-' rfl, is_false_of_isDigit digit rfl,
      Bool.eq_false_iff.mpr positive]

theorem drop_minus (n : Numeral) (rest : Text) (offset : Nat) :
    ∃ next, (if n.negative then Rest.drop { text := n.text ++ rest, offset } 1
        else { text := n.text ++ rest, offset }) = { text := n.body ++ rest, offset := next } ∧
      next + n.body.length = offset + n.text.length := by
  unfold text
  split
  · exact ⟨offset + 1, rfl, by rw [List.length_cons]; omega⟩
  · exact ⟨offset, rfl, rfl⟩

theorem readNumber_text (n : Numeral) (offset : Nat) {rest : Text} (ends : Ends rest) :
    readNumber { text := n.text ++ rest, offset } =
      some (n.value, { text := rest, offset := offset + n.text.length }) := by
  obtain ⟨next, unsigned, length⟩ := n.drop_minus rest offset
  have shape : n.body ++ rest = n.whole ++ (fractionText n.fraction ++ (powerText n.power ++ rest)) := by
    simp only [body, List.append_assoc]
  -- Each part ends where it is written to end, because what comes next cannot be a part of it.
  have whole := n.leads.taken (head?_fractionText n.fraction n.power ends)
  have some_ : n.whole.isEmpty = false := by
    obtain ⟨c, ds, split, _⟩ := n.leads
    rw [split]
    rfl
  have fraction := fractionDigits_fractionText n.isDigit_fraction (head?_powerText n.power ends)
  have power := power?_powerText n.power ends
  simp only [readNumber, n.starts_minus, unsigned, shape, whole, some_, Bool.false_eq_true, if_false,
    Rest.drop_append, fraction, drop_fractionText, power, Option.map_map, Function.comp_def, Option.map_id']
  rw [drop_powerText, ← length, body, List.length_append, List.length_append]
  simp only [value, Nat.add_assoc]

theorem word_ne_text (n : Numeral) (rest : Text) (offset : Nat) :
    words.find? (fun w => Rest.starts { text := n.text ++ rest, offset } w.1) = none := by
  obtain ⟨c, t, split, digit⟩ := n.body_head
  rw [List.find?_eq_none]
  intro w found
  obtain ⟨d, others, shape, notDigit, minus⟩ := word_head found
  unfold text
  split
  -- The one word with a minus goes on with a letter.
  · rw [split, List.cons_append, List.cons_append, starts_cons shape]
    intro both
    obtain ⟨first, second⟩ := Bool.and_eq_true_iff.mp both
    have same : d = '-' := by
      simpa using (congrArg CodePoint.char? (CodePoint.is_iff.mp first)).symm
    have inf := minus same
    cases others with
    | nil => simp at inf
    | cons e others =>
      rw [List.head?_cons, Option.some.injEq] at inf
      subst inf
      simp only [Text.ofChars, List.map_cons, List.isPrefixOf, ofChar_beq,
        is_false_of_isDigit (d := 'I') digit rfl, Bool.false_and, Bool.false_eq_true] at second
  · rw [split, List.cons_append, starts_cons shape, is_false_of_isDigit digit notDigit]
    simp

end Numeral

theorem digits_cons {n : Nat} (positive : 0 < n) : ∃ c ds, digits n = c :: ds ∧ c.is '0' = false := by
  cases shape : Nat.toDigits 10 n with
  | nil => exact absurd shape Nat.toDigits_ne_nil
  | cons d ds =>
    refine ⟨CodePoint.ofChar d, Text.ofChars ds, by rw [digits, shape, Text.ofChars_cons], ?_⟩
    have head := head?_toDigits_ne_zero positive
    rw [shape, List.head?_cons] at head
    rw [CodePoint.is_ofChar, beq_eq_false_iff_ne]
    exact fun zero => head (congrArg some zero)

theorem leads_digits (n : Nat) : Leads (digits n) := by
  rcases Nat.eq_zero_or_pos n with rfl | positive
  · exact ⟨CodePoint.ofChar '0', [], rfl, fun d => isDigit_of_mem_digits, fun _ => rfl⟩
  · obtain ⟨c, ds, shape, nonzero⟩ := digits_cons positive
    refine ⟨c, ds, shape, fun d => isDigit_of_mem_digits, fun zero => ?_⟩
    rw [nonzero] at zero
    cases zero

def Numeral.ofInt (n : Int) : Numeral where
  negative := decide (n < 0)
  whole := digits n.natAbs
  fraction := []
  power := none
  leads := leads_digits n.natAbs
  isDigit_fraction := by simp

theorem Numeral.text_ofInt (n : Int) : (Numeral.ofInt n).text = Text.ofInt n := by
  simp [ofInt_eq, text, body, Numeral.ofInt, fractionText, powerText]

theorem Numeral.value_ofInt (n : Int) : (Numeral.ofInt n).value = .int n := by
  simp only [value, Numeral.ofInt, numberOf, List.isEmpty_nil, Option.isNone_none, Bool.and_true, if_true,
    digitsValue_digits, decide_eq_true_eq]
  congr 1
  omega

end SiteSurvey.Json
