import Mathlib.Data.Nat.Digits.Lemmas
import SiteSurvey.Proofs.Script.Units
import SiteSurvey.Proofs.Text.CodePoint

set_option autoImplicit false

namespace SiteSurvey

namespace CodePoint

theorem units_ofNat {n : Nat} (small : n < 0x10000) : (ofNat n).units = [n.toUInt16] := by
  have valid : n < 0x110000 := by omega
  simp [ofNat, units, valid, small]

theorem length_units (c : CodePoint) : 0 < c.units.length ∧ c.units.length ≤ 2 := by
  unfold units
  split <;> simp

end CodePoint

namespace Text

theorem units_singleton (c : CodePoint) : units [c] = c.units := by
  simp [units]

theorem length_le_units (t : Text) : t.length ≤ t.units.length := by
  induction t with
  | nil => simp
  | cons c t ih =>
    have first := c.length_units.1
    simp only [units, List.flatMap_cons, List.length_append, List.length_cons] at ih ⊢
    omega

end Text

namespace Script

section Numerals

theorem isOctalDigit_iff {c : Char} : isOctalDigit c = true ↔ 48 ≤ c.toNat ∧ c.toNat ≤ 55 := by
  simp [isOctalDigit, Char.le_def, UInt32.le_iff_toNat_le]

theorem toNat_of_isHexDigit {c : Char} (digit : isHexDigit c = true) : c.toNat < 128 := by
  simp [isHexDigit, Char.isDigit, Char.le_def, UInt32.le_iff_toNat_le] at digit
  omega

theorem of_ascii {P : Char → Prop} {c : Char} (small : c.toNat < 128) (all : ∀ n < 128, P (Char.ofNat n)) : P c := by
  have here := all c.toNat small
  rwa [Char.ofNat_toNat] at here

theorem digitValue_of_isHexDigit {c : Char} (digit : isHexDigit c = true) :
    hexDigitValue c = digitValue c ∧ digitValue c < 16 :=
  of_ascii (P := fun c => isHexDigit c = true → hexDigitValue c = digitValue c ∧ digitValue c < 16)
    (toNat_of_isHexDigit digit) (by decide +kernel) digit

theorem digitValue_of_isOctalDigit {c : Char} (digit : isOctalDigit c = true) :
    c.toNat - 0x30 = digitValue c ∧ digitValue c < 8 := by
  have bounds := isOctalDigit_iff.mp digit
  exact of_ascii (P := fun c => isOctalDigit c = true → c.toNat - 0x30 = digitValue c ∧ digitValue c < 8)
    (by omega) (by decide +kernel) digit

theorem foldl_eq_numeral {base : Nat} {value : Char → Nat} {digits : List Char}
    (same : ∀ c ∈ digits, value c = digitValue c) :
    digits.foldl (fun n c => n * base + value c) 0 = numeral base digits := by
  have from_ : ∀ n, digits.foldl (fun n c => n * base + value c) n =
      (digits.map digitValue).foldl (fun n d => d + base * n) n := by
    induction digits with
    | nil => simp
    | cons c digits ih =>
      intro n
      have first := same c (by simp)
      rw [List.foldl_cons, List.map_cons, List.foldl_cons, ih (fun c found => same c (by simp [found])), first]
      congr 1
      ring
  rw [from_, numeral, Nat.ofDigits_eq_foldr, List.foldr_reverse]
  rfl

theorem numeral_lt {base : Nat} {digits : List Char} (proper : 1 < base) (small : ∀ c ∈ digits, digitValue c < base) :
    numeral base digits < base ^ digits.length := by
  have bound := Nat.ofDigits_lt_base_pow_length (b := base) (l := (digits.map digitValue).reverse) proper
    (by simpa using small)
  simpa [numeral] using bound

theorem hexNumber_eq {digits : List Char} (hex : digits.all isHexDigit = true) :
    hexNumber digits = numeral 16 digits ∧ numeral 16 digits < 16 ^ digits.length := by
  rw [List.all_eq_true] at hex
  exact ⟨foldl_eq_numeral fun c found => (digitValue_of_isHexDigit (hex c found)).1,
    numeral_lt (by decide) fun c found => (digitValue_of_isHexDigit (hex c found)).2⟩

theorem octalNumber_eq {digits : List Char} (octal : digits.all isOctalDigit = true) :
    octalNumber digits = numeral 8 digits ∧ numeral 8 digits < 8 ^ digits.length := by
  rw [List.all_eq_true] at octal
  exact ⟨foldl_eq_numeral fun c found => (digitValue_of_isOctalDigit (octal c found)).1,
    numeral_lt (by decide) fun c found => (digitValue_of_isOctalDigit (octal c found)).2⟩

end Numerals

/-- An escape as it is cut out of a text, before the rest of the text. It goes on as long as it can. -/
inductive Escape : List Char → List Char → Prop
  | single {c : Char} {rest : List Char} (other : c ≠ 'x' ∧ c ≠ 'u' ∧ isOctalDigit c = false)
      (ends : c = '\r' → ∀ d ∈ rest.head?, isBreak d = false) : Escape ['\\', c] rest
  | carriage {c : Char} {rest : List Char} (lineBreak : isBreak c = true) : Escape ['\\', '\r', c] rest
  | octal {digits rest : List Char} (nonempty : digits ≠ []) (few : digits.length ≤ 3)
      (digit : digits.all isOctalDigit = true)
      (ends : digits.length < 3 → ∀ d ∈ rest.head?, isOctalDigit d = false) : Escape ('\\' :: digits) rest
  | hex {digits rest : List Char} (two : digits.length = 2) (digit : digits.all isHexDigit = true) :
      Escape ('\\' :: 'x' :: digits) rest
  | unicode {digits rest : List Char} (four : digits.length = 4) (digit : digits.all isHexDigit = true) :
      Escape ('\\' :: 'u' :: digits) rest
  | braced {digits rest : List Char} (nonempty : digits ≠ []) (digit : digits.all isHexDigit = true) :
      Escape ('\\' :: 'u' :: '\x7b' :: (digits ++ ['\x7d'])) rest

def settledChars : List Char :=
  ['\n', 'b', 'f', 'n', 'r', 't', 'v', '\\', '\'', '"', 'N', 'U']

/-- The escapes that are read as they are meant: those of a control character, a quote or a backslash, of a line
feed, of a number with two or four hexadecimal digits or one below 256 with octal ones, and two letters that
stand for themselves. -/
def isSettled (escape : List Char) : Bool :=
  match escape with
  | '\\' :: c :: rest =>
      if isOctalDigit c then rest.length < 2 || c ≤ '3'
      else if c == 'u' then rest.head? != some '\x7b'
      else c == 'x' || settledChars.contains c
  | _ => false

/-- How an escape is read, compared with what it means at its place in a text. -/
inductive Compared (escape rest : List Char) : Prop
  | settled (is : isSettled escape = true)
      (meant : literalUnits? (escape ++ rest) = (literalUnits? rest).map ((decodeEscape escape).units ++ ·))
  | amiss (is : isSettled escape = false) (units : List UInt16) (apart : ¬(decodeEscape escape).units <:+: units)
      (meant : literalUnits? (escape ++ rest) = (literalUnits? rest).map (units ++ ·))
  | void (is : isSettled escape = false) (meant : literalUnits? (escape ++ rest) = none)

section Hexadecimal

variable {digits rest : List Char}

theorem compared_fixed {c : Char} (count : Nat) (small : count ≤ 4) (fits : digits.length = count)
    (digit : digits.all isHexDigit = true) (settled : isSettled ('\\' :: c :: digits) = true)
    (read : decodeEscape ('\\' :: c :: digits) = [CodePoint.ofNat (hexNumber digits)])
    (meant : readEscape? (c :: (digits ++ rest)) = fixedEscape? count (digits ++ rest)) :
    Compared ('\\' :: c :: digits) rest := by
  obtain ⟨number, bound⟩ := hexNumber_eq digit
  have word : numeral 16 digits < 0x10000 :=
    bound.trans_le (fits ▸ Nat.pow_le_pow_right (by decide) small)
  have whole : fixedEscape? count (digits ++ rest) = some ([(numeral 16 digits).toUInt16], rest) := by
    simp only [fixedEscape?, ← fits, List.take_left, List.drop_left, digit, and_self, if_true]
  refine .settled settled ?_
  rw [read, number, Text.units_singleton, CodePoint.units_ofNat word]
  exact literalUnits?_escape (meant.trans whole)

theorem compared_hex (two : digits.length = 2) (digit : digits.all isHexDigit = true) :
    Compared ('\\' :: 'x' :: digits) rest :=
  compared_fixed 2 (by decide) two digit rfl rfl rfl

theorem compared_unicode (four : digits.length = 4) (digit : digits.all isHexDigit = true) :
    Compared ('\\' :: 'u' :: digits) rest := by
  obtain ⟨d, more, rfl⟩ : ∃ d more, digits = d :: more := List.exists_cons_of_length_pos (by omega)
  have other : d ≠ '\x7b' := by
    rintro rfl
    simp [show isHexDigit '\x7b' = false by decide] at digit
  refine compared_fixed 4 (by decide) four digit ?_ ?_ ?_
  · simp [isSettled, other, show isOctalDigit 'u' = false by decide]
  · simp [decodeEscape, other, show isOctalDigit 'u' = false by decide]
  · simp [readEscape?, other, show isLineEnd 'u' = false by decide]

-- A number in braces is read letter by letter, which makes more units than a code point can have.
theorem compared_braced (nonempty : digits ≠ []) (digit : digits.all isHexDigit = true) :
    Compared ('\\' :: 'u' :: '\x7b' :: (digits ++ ['\x7d'])) rest := by
  have unsettled : isSettled ('\\' :: 'u' :: '\x7b' :: (digits ++ ['\x7d'])) = false := rfl
  have whole : ('\\' :: 'u' :: '\x7b' :: (digits ++ ['\x7d'])) ++ rest =
      '\\' :: 'u' :: '\x7b' :: (digits ++ '\x7d' :: rest) := by simp
  have close : isHexDigit '\x7d' = false := by decide
  have digit' := List.all_eq_true.mp digit
  have meant : readEscape? ('u' :: '\x7b' :: (digits ++ '\x7d' :: rest)) =
      if numeral 16 digits < 0x110000 then some ((CodePoint.ofNat (numeral 16 digits)).units, rest) else none := by
    have braces : readEscape? ('u' :: '\x7b' :: (digits ++ '\x7d' :: rest)) =
        bracedEscape? (digits ++ '\x7d' :: rest) := rfl
    rw [braces, bracedEscape?, List.takeWhile_append_of_pos digit', List.dropWhile_append_of_pos digit']
    simp [close, nonempty]
  by_cases inside : numeral 16 digits < 0x110000
  · rw [if_pos inside] at meant
    refine .amiss unsettled _ (fun part => ?_) (whole ▸ literalUnits?_escape meant)
    have read : decodeEscape ('\\' :: 'u' :: '\x7b' :: (digits ++ ['\x7d'])) =
        Text.ofChars ('u' :: '\x7b' :: (digits ++ ['\x7d'])) := rfl
    have long := Text.length_le_units (Text.ofChars ('u' :: '\x7b' :: (digits ++ ['\x7d'])))
    have short := (CodePoint.ofNat (numeral 16 digits)).length_units.2
    have fits := part.length_le
    rw [read] at fits
    simp only [Text.ofChars, List.length_map, List.length_cons, List.length_append] at long
    simp only [Text.ofChars] at fits
    omega
  · rw [if_neg inside] at meant
    exact .void unsettled (whole ▸ literalUnits?_broken meant)

end Hexadecimal

section Octal

variable {digits rest : List Char} {d e f : Char}

theorem octalDigit_aside (octal : isOctalDigit d = true) :
    isLineEnd d = false ∧ d ≠ 'x' ∧ d ≠ 'u' ∧ d ≠ '\n' ∧ isPlain d = true := by
  have bounds := isOctalDigit_iff.mp octal
  exact of_ascii (P := fun d => isOctalDigit d = true → isLineEnd d = false ∧ d ≠ 'x' ∧ d ≠ 'u' ∧ d ≠ '\n' ∧
    isPlain d = true) (by omega) (by decide +kernel) octal

theorem readEscape?_octal (octal : isOctalDigit d = true) (rest : List Char) :
    readEscape? (d :: rest) =
      some ([(numeral 8 (octalRun (d :: rest))).toUInt16], (d :: rest).drop (octalRun (d :: rest)).length) := by
  obtain ⟨inLine, notX, notU, _, _⟩ := octalDigit_aside octal
  simp only [readEscape?, inLine, notX, notU, octal, if_true, if_false, Bool.false_eq_true]

theorem units_decodeEscape_octal (first : isOctalDigit d = true) (others : digits.all isOctalDigit = true)
    (few : digits.length ≤ 2) :
    (decodeEscape ('\\' :: d :: digits)).units = [(numeral 8 (d :: digits)).toUInt16] := by
  have read : decodeEscape ('\\' :: d :: digits) = [CodePoint.ofNat (octalNumber (d :: digits))] := by
    simp [decodeEscape, (octalDigit_aside first).2.2.2.1, first]
  obtain ⟨number, bound⟩ := octalNumber_eq (show (d :: digits).all isOctalDigit = true by simp [first, others])
  have word : 8 ^ (d :: digits).length ≤ 8 ^ 3 := Nat.pow_le_pow_right (by decide) (Nat.succ_le_succ few)
  rw [read, number, Text.units_singleton, CodePoint.units_ofNat (by omega)]

theorem takeWhile_octal (most : Nat) (octal : digits.all isOctalDigit = true) (few : digits.length ≤ most)
    (ends : digits.length < most → ∀ d ∈ rest.head?, isOctalDigit d = false) :
    ((digits ++ rest).take most).takeWhile isOctalDigit = digits := by
  rw [List.take_append, List.take_of_length_le few, List.takeWhile_append_of_pos (List.all_eq_true.mp octal)]
  have nothing : (rest.take (most - digits.length)).takeWhile isOctalDigit = [] := by
    cases rest with
    | nil => simp
    | cons d rest =>
      by_cases full : digits.length < most
      · have other := ends full d (by simp)
        obtain ⟨k, more⟩ : ∃ k, most - digits.length = k + 1 := ⟨most - digits.length - 1, by omega⟩
        simp [more, other]
      · simp [show most - digits.length = 0 by omega]
  rw [nothing, List.append_nil]

theorem octalRun_eq (octal : (d :: digits).all isOctalDigit = true) (few : digits.length ≤ 2)
    (low : digits.length < 2 ∨ d ≤ '3')
    (ends : digits.length < 2 → ∀ d ∈ rest.head?, isOctalDigit d = false) :
    octalRun (d :: (digits ++ rest)) = d :: digits := by
  by_cases small : d ≤ '3'
  · have run : ((d :: digits ++ rest).take 3).takeWhile isOctalDigit = d :: digits := by
      rw [← Nat.succ_le_succ_iff] at few
      exact takeWhile_octal 3 octal few fun less => ends (Nat.lt_of_succ_lt_succ less)
    simpa [octalRun, small] using run
  · have short : digits.length < 2 := low.resolve_right small
    have run : ((d :: digits ++ rest).take 2).takeWhile isOctalDigit = d :: digits :=
      takeWhile_octal 2 octal short fun _ => ends short
    simpa [octalRun, small] using run

theorem compared_octal_low (first : isOctalDigit d = true) (others : digits.all isOctalDigit = true)
    (few : digits.length ≤ 2) (low : digits.length < 2 ∨ d ≤ '3')
    (ends : digits.length < 2 → ∀ d ∈ rest.head?, isOctalDigit d = false) :
    Compared ('\\' :: d :: digits) rest := by
  have meant := readEscape?_octal first (digits ++ rest)
  rw [octalRun_eq (by simp [first, others]) few low ends] at meant
  refine .settled ?_ ?_
  · simpa [isSettled, first] using low
  · rw [units_decodeEscape_octal first others few]
    simpa using literalUnits?_escape meant

-- From 400 on the third digit is no part of the escape, but is read as one.
theorem compared_octal_high (first : isOctalDigit d = true) (second : isOctalDigit e = true)
    (third : isOctalDigit f = true) (high : ¬d ≤ '3') : Compared ['\\', d, e, f] rest := by
  have read : (decodeEscape ['\\', d, e, f]).units = [(numeral 8 [d, e, f]).toUInt16] :=
    units_decodeEscape_octal first (by simp [second, third]) (Nat.le_refl 2)
  have plain : isPlain f = true := (octalDigit_aside third).2.2.2.2
  have run : octalRun (d :: e :: f :: rest) = [d, e] := by
    simp [octalRun, high, first, second]
  have bounds := isOctalDigit_iff.mp third
  have digit : (CodePoint.ofChar f).units = [f.toNat.toUInt16] := by
    rw [CodePoint.units, if_pos (by rw [CodePoint.val_ofChar]; omega), CodePoint.val_ofChar]
  have meant : literalUnits? (['\\', d, e, f] ++ rest) =
      (literalUnits? rest).map ([(numeral 8 [d, e]).toUInt16, f.toNat.toUInt16] ++ ·) := by
    have escape := readEscape?_octal first (e :: f :: rest)
    rw [run] at escape
    have step := literalUnits?_escape escape
    simp only [List.length_cons, List.length_nil, List.drop_succ_cons, List.drop_zero,
      literalUnits?_plain plain, digit] at step
    simpa [Function.comp_def] using step
  have pair : numeral 8 [d, e] < 8 ^ 2 := (octalNumber_eq (by simp [first, second])).2
  have bound : numeral 8 [d, e, f] < 8 ^ 3 := (octalNumber_eq (by simp [first, second, third])).2
  have large : 256 ≤ numeral 8 [d, e, f] := by
    have value := (digitValue_of_isOctalDigit first).1
    have above : 51 < d.toNat := by simpa [Char.le_def, UInt32.le_iff_toNat_le] using high
    simp only [numeral, List.map_cons, List.map_nil, List.reverse_cons, List.reverse_nil, List.nil_append,
      List.cons_append, Nat.ofDigits_cons, Nat.ofDigits_nil]
    omega
  have apart : ∀ n < 256, (numeral 8 [d, e, f]).toUInt16 ≠ n.toUInt16 := by
    intro n small same
    have values := congrArg UInt16.toNat same
    simp only [Nat.toUInt16_eq, UInt16.toNat_ofNat'] at values
    omega
  refine .amiss ?_ _ ?_ meant
  · simpa [isSettled, first] using high
  · intro part
    rw [read] at part
    have inside := part.subset (List.mem_singleton_self _)
    simp only [List.mem_cons, List.not_mem_nil, or_false] at inside
    exact inside.elim (apart _ (by omega)) (apart _ (by omega))

theorem compared_octal (nonempty : digits ≠ []) (few : digits.length ≤ 3) (octal : digits.all isOctalDigit = true)
    (ends : digits.length < 3 → ∀ d ∈ rest.head?, isOctalDigit d = false) : Compared ('\\' :: digits) rest := by
  obtain ⟨d, more, rfl⟩ := List.exists_cons_of_ne_nil nonempty
  rw [List.all_cons, Bool.and_eq_true] at octal
  have few' : more.length ≤ 2 := Nat.le_of_succ_le_succ few
  by_cases low : more.length < 2 ∨ d ≤ '3'
  · exact compared_octal_low octal.1 octal.2 few' low fun short => ends (Nat.succ_lt_succ short)
  · obtain ⟨long, high⟩ := not_or.mp low
    obtain ⟨e, f, rfl⟩ : ∃ e f, more = [e, f] := List.length_eq_two.mp (by omega)
    simp only [List.all_cons, List.all_nil, Bool.and_eq_true, and_true] at octal
    exact compared_octal_high octal.1 octal.2.1 octal.2.2 high

end Octal

section Single

variable {more rest : List Char} {c : Char}

theorem length_encodeOne (n : Nat) :
    0 < (Utf8.encodeOne n).length ∧ (0x10000 ≤ n → (Utf8.encodeOne n).length = 4) := by
  unfold Utf8.encodeOne
  split
  · exact ⟨by simp, by omega⟩
  · split
    · exact ⟨by simp, by omega⟩
    · split
      · exact ⟨by simp, by omega⟩
      · simp

theorem length_units_le_spread (c : Char) : (CodePoint.ofChar c).units.length ≤ (spreadBytes c).length := by
  obtain ⟨nonempty, astral⟩ := length_encodeOne c.toNat
  have spread : (spreadBytes c).length = (Utf8.encodeOne c.toNat).length := List.length_map _
  rw [spread, CodePoint.units, CodePoint.val_ofChar]
  split
  · exact nonempty
  · simp [astral (by omega)]

theorem decodeEscape_unknown (other : c ≠ 'x' ∧ c ≠ 'u' ∧ isOctalDigit c = false)
    (unknown : c ∉ 'a' :: settledChars) :
    decodeEscape ('\\' :: c :: more) = CodePoint.ofChar '\\' :: (c :: more).flatMap spreadBytes := by
  simp only [settledChars, List.mem_cons, List.not_mem_nil, or_false, not_or] at unknown
  have letter : letterEscape c = none := by
    unfold letterEscape
    split <;> simp_all
  simp [decodeEscape, other, unknown, letter]

theorem escapedChar_unknown (unknown : c ∉ 'a' :: settledChars) : escapedChar c = c := by
  simp only [settledChars, List.mem_cons, List.not_mem_nil, or_false, not_or] at unknown
  unfold escapedChar
  split <;> simp_all

-- An escape that is not known keeps its backslash, so that more is read than is meant.
theorem compared_unknown (units : List UInt16) (other : c ≠ 'x' ∧ c ≠ 'u' ∧ isOctalDigit c = false)
    (unknown : c ∉ 'a' :: settledChars) (short : units.length ≤ ((c :: more).flatMap spreadBytes).length)
    (meant : literalUnits? ('\\' :: c :: more ++ rest) = (literalUnits? rest).map (units ++ ·)) :
    Compared ('\\' :: c :: more) rest := by
  refine .amiss ?_ units (fun part => ?_) meant
  · have outside : c ∉ settledChars := fun inside => unknown (List.mem_cons_of_mem _ inside)
    simpa [isSettled, other] using outside
  · have long := (Text.length_le_units _).trans part.length_le
    rw [decodeEscape_unknown other unknown, List.length_cons] at long
    omega

theorem compared_lineEnd (other : c ≠ 'x' ∧ c ≠ 'u' ∧ isOctalDigit c = false) (lineEnd : isLineEnd c = true)
    (ends : c = '\r' → ∀ d ∈ rest.head?, isBreak d = false) : Compared ['\\', c] rest := by
  have alone : ¬(c = '\r' ∧ rest.head? = some '\n') := by
    rintro ⟨carriage, feed⟩
    exact absurd (ends carriage '\n' feed) (by decide)
  have escape : readEscape? (c :: rest) = some ([], rest) := by
    simp only [readEscape?, lineEnd, if_true, if_neg alone]
  by_cases feed : c = '\n'
  · subst feed
    exact .settled rfl (literalUnits?_escape escape)
  · refine compared_unknown [] other (fun known => ?_) (Nat.zero_le _) (literalUnits?_escape escape)
    simp only [isLineEnd, feed, Bool.or_eq_true, beq_iff_eq, false_or] at lineEnd
    simp only [settledChars, List.mem_cons, List.not_mem_nil, or_false] at known
    rcases known with rfl | rfl | rfl | rfl | rfl | rfl | rfl | rfl | rfl | rfl | rfl | rfl | rfl <;>
      simp at lineEnd feed

theorem compared_single (other : c ≠ 'x' ∧ c ≠ 'u' ∧ isOctalDigit c = false)
    (ends : c = '\r' → ∀ d ∈ rest.head?, isBreak d = false) : Compared ['\\', c] rest := by
  by_cases lineEnd : isLineEnd c = true
  · exact compared_lineEnd other lineEnd ends
  · have escape : readEscape? (c :: rest) = some ((CodePoint.ofChar (escapedChar c)).units, rest) := by
      simp only [readEscape?, lineEnd, other, if_false, Bool.false_eq_true]
    have meant := literalUnits?_escape escape
    by_cases known : c ∈ 'a' :: settledChars
    · simp only [settledChars, List.mem_cons, List.not_mem_nil, or_false] at known
      rcases known with rfl | rfl | rfl | rfl | rfl | rfl | rfl | rfl | rfl | rfl | rfl | rfl | rfl
      · exact .amiss rfl _ (by decide) meant
      · exact absurd rfl lineEnd
      all_goals exact .settled rfl meant
    · refine compared_unknown _ other known ?_ meant
      rw [escapedChar_unknown known]
      simpa using length_units_le_spread c

theorem compared_carriage (lineBreak : isBreak c = true) : Compared ['\\', '\r', c] rest := by
  have other : '\r' ≠ 'x' ∧ '\r' ≠ 'u' ∧ isOctalDigit '\r' = false := by decide
  have unknown : '\r' ∉ 'a' :: settledChars := by decide
  by_cases feed : c = '\n'
  · subst feed
    exact compared_unknown [] other unknown (Nat.zero_le _) (literalUnits?_escape rfl)
  · -- The carriage return alone is the line end, and the other break is a character of the literal.
    have plain : isPlain c = true := by
      simp only [isPlain, Bool.and_eq_true, bne_iff_ne, ne_eq]
      simp only [isBreak, feed, Bool.or_eq_true, beq_iff_eq, false_or] at lineBreak
      refine ⟨⟨?_, feed⟩, ?_⟩ <;> rintro rfl <;> simp at lineBreak
    have escape : readEscape? ('\r' :: c :: rest) = some ([], c :: rest) := by
      simp [readEscape?, feed, show isLineEnd '\r' = true by decide]
    have meant := literalUnits?_escape escape
    rw [literalUnits?_plain plain] at meant
    refine compared_unknown (CodePoint.ofChar c).units other unknown ?_ ?_
    · have here := length_units_le_spread c
      simp only [List.flatMap_cons, List.flatMap_nil, List.append_nil, List.length_append]
      omega
    · simpa [Function.comp_def] using meant

end Single

theorem compared_of_escape {escape rest : List Char} (cut : Escape escape rest) : Compared escape rest := by
  cases cut with
  | single other ends => exact compared_single other ends
  | carriage lineBreak => exact compared_carriage lineBreak
  | octal nonempty few digit ends => exact compared_octal nonempty few digit ends
  | hex two digit => exact compared_hex two digit
  | unicode four digit => exact compared_unicode four digit
  | braced nonempty digit => exact compared_braced nonempty digit

end Script

end SiteSurvey
