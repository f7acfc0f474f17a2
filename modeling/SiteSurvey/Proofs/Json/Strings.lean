import SiteSurvey.Json.Printer
import SiteSurvey.Json.Reader
import SiteSurvey.Proofs.Text.CodePoint

set_option autoImplicit false

namespace SiteSurvey

namespace CodePoint

def isHigh (c : CodePoint) : Bool :=
  0xD800 ≤ c.val && c.val ≤ 0xDBFF

def isLow (c : CodePoint) : Bool :=
  0xDC00 ≤ c.val && c.val ≤ 0xDFFF

end CodePoint

/-- No first half of a pair stands right before a second one. -/
def Text.isUnpaired : Text → Bool
  | c :: d :: rest => !(c.isHigh && d.isLow) && isUnpaired (d :: rest)
  | _ => true

theorem Text.isUnpaired_of_whole {t : Text} (whole : t.hasSurrogate = false) : t.isUnpaired = true := by
  induction t with
  | nil => rfl
  | cons c t ih =>
    rw [hasSurrogate_cons, Bool.or_eq_false_iff] at whole
    cases t with
    | nil => rfl
    | cons d t =>
      have high : c.isHigh = false := by
        simp only [CodePoint.isSurrogate, CodePoint.isHigh, Bool.and_eq_false_iff, decide_eq_false_iff_not] at whole ⊢
        omega
      rw [isUnpaired, high, ih whole.2]
      rfl

namespace Json

/-- What a string has to be for a layout to keep it: the escapes of two surrogates in a row would be read
as one code point if they are the halves of a pair. -/
def Keeps (ascii : Bool) (t : Text) : Prop :=
  ascii = true → t.isUnpaired = true

theorem keeps_of_whole {ascii : Bool} {t : Text} (whole : t.hasSurrogate = false) : Keeps ascii t :=
  fun _ => Text.isUnpaired_of_whole whole

theorem hexValue_hexDigit {n : Nat} (small : n < 16) : hexValue (hexDigit n) = some n := by
  simp only [hexDigit]
  split
  · have value : (CodePoint.ofNat (0x30 + n)).val = 0x30 + n := by
      simp only [CodePoint.ofNat]
      rw [dif_pos (by omega)]
    simp only [hexValue, value]
    simp
    omega
  · have value : (CodePoint.ofNat (0x61 + (n - 10))).val = 0x61 + (n - 10) := by
      simp only [CodePoint.ofNat]
      rw [dif_pos (by omega)]
    simp only [hexValue, value]
    rw [if_neg (by simp; omega), if_pos (by simp; omega)]
    congr 1
    omega

def hexDigits (n : Nat) : Text :=
  [hexDigit (n / 4096 % 16), hexDigit (n / 256 % 16), hexDigit (n / 16 % 16), hexDigit (n % 16)]

theorem unicodeUnit_eq (n : Nat) :
    unicodeUnit n = CodePoint.ofChar '\\' :: CodePoint.ofChar 'u' :: hexDigits n := rfl

theorem hex4_hexDigits {n : Nat} (unit : n < 0x10000) (tail : Text) :
    hex4 (hexDigits n ++ tail) = some n := by
  have first := hexValue_hexDigit (show n / 4096 % 16 < 16 by omega)
  have second := hexValue_hexDigit (show n / 256 % 16 < 16 by omega)
  have third := hexValue_hexDigit (show n / 16 % 16 < 16 by omega)
  have fourth := hexValue_hexDigit (show n % 16 < 16 by omega)
  have value : ((n / 4096 % 16 * 16 + n / 256 % 16) * 16 + n / 16 % 16) * 16 + n % 16 = n := by omega
  simp only [hexDigits, List.cons_append, List.nil_append, hex4, first, second, third, fourth]
  exact congrArg some value

/-- A text does not go on with the escape of the second half of a pair. -/
def NoLow (t : Text) : Prop :=
  (Text.ofString "\\u").isPrefixOf t = true → ∃ n, hex4 (t.drop 2) = some n ∧ (n < 0xDC00 ∨ 0xDFFF < n)

theorem unicodeEscape_unit {n offset : Nat} {tail : Text} (unit : n < 0x10000)
    (alone : 0xD800 ≤ n ∧ n ≤ 0xDBFF → NoLow tail) (more : tail ≠ []) :
    unicodeEscape (hexDigits n ++ tail) offset = .ok (n, 4) := by
  have long : ¬(hexDigits n ++ tail).length < 5 := by
    have positive := List.length_pos_iff.mpr more
    simp only [hexDigits, List.length_append, List.length_cons, List.length_nil]
    omega
  have rest : (hexDigits n ++ tail).drop 4 = tail := rfl
  simp only [unicodeEscape, if_neg long, hex4_hexDigits unit, rest]
  split
  next pair =>
    simp only [Bool.and_eq_true, decide_eq_true_eq] at pair
    obtain ⟨low, second, apart⟩ := alone pair.1.1 pair.2
    simp only [second]
    rw [if_neg (by simp only [Bool.and_eq_true, decide_eq_true_eq]; omega)]
  next => rfl

theorem unicodeEscape_pair {high low : Nat} (offset : Nat) {tail : Text}
    (highUnit : 0xD800 ≤ high ∧ high ≤ 0xDBFF) (lowUnit : 0xDC00 ≤ low ∧ low ≤ 0xDFFF)
    (more : tail ≠ []) :
    unicodeEscape (hexDigits high ++ (unicodeUnit low ++ tail)) offset =
      .ok (0x10000 + (high - 0xD800) * 0x400 + (low - 0xDC00), 10) := by
  have positive := List.length_pos_iff.mpr more
  have long : ¬(hexDigits high ++ (unicodeUnit low ++ tail)).length < 5 := by
    simp only [hexDigits, unicodeUnit_eq, List.length_append, List.length_cons, List.length_nil]
    omega
  have rest : (hexDigits high ++ (unicodeUnit low ++ tail)).drop 4 = unicodeUnit low ++ tail := rfl
  have second : (unicodeUnit low ++ tail).drop 2 = hexDigits low ++ tail := rfl
  have opens : (Text.ofString "\\u").isPrefixOf (unicodeUnit low ++ tail) = true := rfl
  have room : 6 < (unicodeUnit low ++ tail).length := by
    simp only [hexDigits, unicodeUnit_eq, List.length_append, List.length_cons, List.length_nil]
    omega
  simp only [unicodeEscape, if_neg long, hex4_hexDigits (show high < 0x10000 by omega), rest, second,
    opens, hex4_hexDigits (show low < 0x10000 by omega), highUnit, lowUnit, room]
  simp

section Steps

variable {opening fuel offset : Nat} {acc : List CodePoint} {tail : Text}

theorem readString_short {d e : Char} (short : shortEscape (CodePoint.ofChar d) = some e)
    (other : (CodePoint.ofChar d).is 'u' = false) :
    readString opening (fuel + 1)
        { text := CodePoint.ofChar '\\' :: CodePoint.ofChar d :: tail, offset } acc =
      readString opening fuel { text := tail, offset := offset + 2 } (CodePoint.ofChar e :: acc) := by
  have notQuote : (CodePoint.ofChar '\\').is '"' = false := rfl
  have slash : (CodePoint.ofChar '\\').is '\\' = true := rfl
  simp only [readString, notQuote, slash, other, short, Bool.false_eq_true, if_false, if_true]

theorem readString_unicode {text : Text} {n taken : Nat}
    (escape : unicodeEscape text (offset + 2) = .ok (n, taken)) :
    readString opening (fuel + 1)
        { text := CodePoint.ofChar '\\' :: CodePoint.ofChar 'u' :: text, offset } acc =
      readString opening fuel { text := text.drop taken, offset := offset + 2 + taken }
        (CodePoint.ofNat n :: acc) := by
  have notQuote : (CodePoint.ofChar '\\').is '"' = false := rfl
  have slash : (CodePoint.ofChar '\\').is '\\' = true := rfl
  have unicode : (CodePoint.ofChar 'u').is 'u' = true := rfl
  simp only [readString, notQuote, slash, unicode, escape, Bool.false_eq_true, if_false, if_true]

theorem readString_unit {c : CodePoint} (unit : c.val < 0x10000) (alone : c.isHigh = true → NoLow tail)
    (more : tail ≠ []) :
    readString opening (fuel + 1) { text := unicodeUnit c.val ++ tail, offset } acc =
      readString opening fuel { text := tail, offset := offset + 6 } (c :: acc) := by
  have alone' : 0xD800 ≤ c.val ∧ c.val ≤ 0xDBFF → NoLow tail := by
    simpa only [CodePoint.isHigh, Bool.and_eq_true, decide_eq_true_eq] using alone
  rw [unicodeUnit_eq]
  refine (readString_unicode (unicodeEscape_unit unit alone' more)).trans ?_
  rw [CodePoint.ofNat_val]
  rfl

theorem readString_pair {c : CodePoint} (astral : 0x10000 ≤ c.val) (more : tail ≠ []) :
    readString opening (fuel + 1)
        { text := unicodeUnit (0xD800 + (c.val - 0x10000) / 0x400) ++
            (unicodeUnit (0xDC00 + (c.val - 0x10000) % 0x400) ++ tail), offset } acc =
      readString opening fuel { text := tail, offset := offset + 12 } (c :: acc) := by
  have bound := c.isLt
  have high : 0xD800 ≤ 0xD800 + (c.val - 0x10000) / 0x400 ∧
      0xD800 + (c.val - 0x10000) / 0x400 ≤ 0xDBFF := by omega
  have low : 0xDC00 ≤ 0xDC00 + (c.val - 0x10000) % 0x400 ∧
      0xDC00 + (c.val - 0x10000) % 0x400 ≤ 0xDFFF := by omega
  have escape := unicodeEscape_pair (offset + 2) high low more
  rw [show 0x10000 + (0xD800 + (c.val - 0x10000) / 0x400 - 0xD800) * 0x400 +
    (0xDC00 + (c.val - 0x10000) % 0x400 - 0xDC00) = c.val by omega] at escape
  rw [unicodeUnit_eq (0xD800 + (c.val - 0x10000) / 0x400)]
  refine (readString_unicode escape).trans ?_
  rw [CodePoint.ofNat_val]
  rfl

theorem readString_plain {c : CodePoint} (notQuote : c.is '"' = false) (notSlash : c.is '\\' = false)
    (printable : 0x20 ≤ c.val) :
    readString opening (fuel + 1) { text := c :: tail, offset } acc =
      readString opening fuel { text := tail, offset := offset + 1 } (c :: acc) := by
  simp only [readString, notQuote, notSlash, Bool.false_eq_true, if_false]
  rw [if_neg (by omega)]

theorem readString_escaped (opening fuel offset : Nat) (acc : List CodePoint) {ascii : Bool}
    {c : CodePoint} (alone : ascii = true → c.isHigh = true → NoLow tail) (more : tail ≠ []) :
    ∃ offset', readString opening (fuel + 1) { text := escaped ascii c ++ tail, offset } acc =
      readString opening fuel { text := tail, offset := offset' } (c :: acc) := by
  unfold escaped
  split
  case h_8 notQuote notSlash _ _ _ _ _ =>
    have quote : c.is '"' = false := by
      rw [Bool.eq_false_iff]
      intro same
      exact notQuote (CodePoint.char?_eq_some_iff.mpr (CodePoint.is_iff.mp same))
    have slash : c.is '\\' = false := by
      rw [Bool.eq_false_iff]
      intro same
      exact notSlash (CodePoint.char?_eq_some_iff.mpr (CodePoint.is_iff.mp same))
    by_cases control : c.val < 0x20
    · have low : c.isHigh = true → NoLow tail := by
        simp only [CodePoint.isHigh, Bool.and_eq_true, decide_eq_true_eq]
        omega
      rw [if_pos control]
      exact ⟨_, readString_unit (by omega) low more⟩
    rw [if_neg control]
    by_cases beyond : (ascii && decide (0x7E < c.val)) = true
    · rw [if_pos beyond]
      simp only [Bool.and_eq_true, decide_eq_true_eq] at beyond
      by_cases unit : c.val < 0x10000
      · rw [if_pos unit]
        exact ⟨_, readString_unit unit (alone beyond.1) more⟩
      · rw [if_neg unit, List.append_assoc]
        exact ⟨_, readString_pair (by omega) more⟩
    · rw [if_neg beyond]
      exact ⟨_, readString_plain quote slash (by omega)⟩
  all_goals
    rename_i found
    rw [CodePoint.char?_eq_some_iff] at found
    rw [found]
    exact ⟨_, readString_short rfl rfl⟩

theorem noLow_plain {c : CodePoint} (other : c.is '\\' = false) (t : Text) : NoLow (c :: t) := by
  intro opens
  have first : (CodePoint.ofChar '\\' == c) = true := (Bool.and_eq_true_iff.mp opens).1
  rw [← beq_iff_eq.mp first] at other
  cases other

theorem noLow_unit {n : Nat} (unit : n < 0x10000) (apart : n < 0xDC00 ∨ 0xDFFF < n) (t : Text) :
    NoLow (unicodeUnit n ++ t) := by
  intro _
  exact ⟨n, hex4_hexDigits unit t, apart⟩

/-- Whatever is not the second half of a pair does not look like one when it is escaped. -/
theorem noLow_escaped (ascii : Bool) {c : CodePoint} (other : c.isLow = false) (t : Text) :
    NoLow (escaped ascii c ++ t) := by
  have apart : c.val < 0xDC00 ∨ 0xDFFF < c.val := by
    simp only [CodePoint.isLow, Bool.and_eq_false_iff, decide_eq_false_iff_not] at other
    omega
  have bound := c.isLt
  unfold escaped
  split
  case h_8 notSlash _ _ _ _ _ =>
    have slash : c.is '\\' = false := by
      rw [Bool.eq_false_iff]
      intro same
      exact notSlash (CodePoint.char?_eq_some_iff.mpr (CodePoint.is_iff.mp same))
    split
    · exact noLow_unit (by omega) apart t
    · split
      · split
        · exact noLow_unit (by omega) apart t
        · rw [List.append_assoc]
          exact noLow_unit (by omega) (by omega) _
      · exact noLow_plain slash t
  all_goals
    intro opens
    cases opens

theorem noLow_flatMap {ascii : Bool} {c : CodePoint} {t : Text} (kept : Keeps ascii (c :: t)) (tail : Text)
    (isAscii : ascii = true) (high : c.isHigh = true) :
    NoLow (t.flatMap (escaped ascii) ++ CodePoint.ofChar '"' :: tail) := by
  cases t with
  | nil => exact noLow_plain rfl tail
  | cons d t =>
    have unpaired := kept isAscii
    rw [Text.isUnpaired, high, Bool.true_and, Bool.and_eq_true, Bool.not_eq_true'] at unpaired
    rw [List.flatMap_cons, List.append_assoc]
    exact noLow_escaped ascii unpaired.1 _

theorem Keeps.rest {ascii : Bool} {c : CodePoint} {t : Text} (kept : Keeps ascii (c :: t)) : Keeps ascii t := by
  intro isAscii
  have unpaired := kept isAscii
  cases t with
  | nil => rfl
  | cons d t => exact (Bool.and_eq_true_iff.mp unpaired).2

theorem readString_flatMap (opening offset : Nat) (acc : List CodePoint) (tail : Text) {ascii : Bool}
    {t : Text} (kept : Keeps ascii t) (enough : t.length < fuel) :
    ∃ offset', readString opening fuel
        { text := t.flatMap (escaped ascii) ++ CodePoint.ofChar '"' :: tail, offset } acc =
      .ok (acc.reverse ++ t, { text := tail, offset := offset' }) := by
  induction t generalizing fuel offset acc with
  | nil =>
    obtain ⟨fuel, rfl⟩ : ∃ k, fuel = k + 1 := ⟨fuel - 1, by simp at enough; omega⟩
    have closes : (CodePoint.ofChar '"').is '"' = true := rfl
    exact ⟨offset + 1, by simp [readString, closes]⟩
  | cons c t ih =>
    rw [List.length_cons] at enough
    obtain ⟨fuel, rfl⟩ : ∃ k, fuel = k + 1 := ⟨fuel - 1, by omega⟩
    rw [List.flatMap_cons, List.append_assoc]
    have more : t.flatMap (escaped ascii) ++ CodePoint.ofChar '"' :: tail ≠ [] := by simp
    have shorter : t.length < fuel := by omega
    obtain ⟨next, step⟩ := readString_escaped opening fuel offset acc (noLow_flatMap kept tail) more
    obtain ⟨last, run⟩ := ih next (c :: acc) kept.rest shorter
    refine ⟨last, ?_⟩
    rw [step, run]
    simp

end Steps

theorem escaped_ne_nil (ascii : Bool) (c : CodePoint) : escaped ascii c ≠ [] := by
  unfold escaped
  split
  case h_8 =>
    repeat' split
    all_goals simp [unicodeUnit_eq]
  all_goals exact List.cons_ne_nil _ _

theorem length_le_flatMap_escaped (ascii : Bool) (t : Text) :
    t.length ≤ (t.flatMap (escaped ascii)).length := by
  induction t with
  | nil => simp
  | cons c t ih =>
    have positive := List.length_pos_iff.mpr (escaped_ne_nil ascii c)
    rw [List.flatMap_cons, List.length_append, List.length_cons]
    omega

theorem quoted_eq (ascii : Bool) (t : Text) :
    quoted ascii t =
      CodePoint.ofChar '"' :: (t.flatMap (escaped ascii) ++ [CodePoint.ofChar '"']) := rfl

end Json

end SiteSurvey
