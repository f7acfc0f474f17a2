import Mathlib.Data.Nat.Digits.Defs
import SiteSurvey.Script.Literal

set_option autoImplicit false

namespace SiteSurvey

def CodePoint.units (c : CodePoint) : List UInt16 :=
  if c.val < 0x10000 then [c.val.toUInt16]
  else [(0xD800 + (c.val - 0x10000) / 0x400).toUInt16, (0xDC00 + (c.val - 0x10000) % 0x400).toUInt16]

def Text.units (t : Text) : List UInt16 :=
  t.flatMap CodePoint.units

theorem Text.units_append (t u : Text) : units (t ++ u) = units t ++ units u :=
  List.flatMap_append

namespace Script

/-! What the text between the quotes of a string literal means in the language of the scripts, in code units.
It is read from the text alone, by the rules of the language and without regard to how a parser cuts it into
parts. -/

def digitValue (c : Char) : Nat :=
  "0123456789abcdef".toList.idxOf c.toLower

def numeral (base : Nat) (digits : List Char) : Nat :=
  Nat.ofDigits base (digits.map digitValue).reverse

def isLineEnd (c : Char) : Bool :=
  c == '\n' || c == '\r' || c.toNat == 0x2028 || c.toNat == 0x2029

def escapedChar (c : Char) : Char :=
  match c with
  | 'b' => '\x08'
  | 't' => '\t'
  | 'n' => '\n'
  | 'v' => '\x0b'
  | 'f' => '\x0c'
  | 'r' => '\r'
  | c => c

def fixedEscape? (count : Nat) (cs : List Char) : Option (List UInt16 × List Char) :=
  if (cs.take count).length = count ∧ (cs.take count).all isHexDigit then
    some ([(numeral 16 (cs.take count)).toUInt16], cs.drop count)
  else none

/-- A number in braces names a code point, if there is such a code point. -/
def bracedEscape? (cs : List Char) : Option (List UInt16 × List Char) :=
  let digits := cs.takeWhile isHexDigit
  match cs.dropWhile isHexDigit with
  | [] => none
  | close :: rest =>
      if close = '\x7d' ∧ digits ≠ [] ∧ numeral 16 digits < 0x110000 then
        some ((CodePoint.ofNat (numeral 16 digits)).units, rest)
      else none

def octalRun (cs : List Char) : List Char :=
  (cs.take (if cs.head?.any (· ≤ '3') then 3 else 2)).takeWhile isOctalDigit

/-- An escape after its backslash: its code units, and the text that is left. -/
def readEscape? (cs : List Char) : Option (List UInt16 × List Char) :=
  match cs with
  | [] => none
  | c :: rest =>
      if isLineEnd c then
        some ([], if c = '\r' ∧ rest.head? = some '\n' then rest.tail else rest)
      else if c = 'x' then fixedEscape? 2 rest
      else if c = 'u' then
        if rest.head? = some '\x7b' then bracedEscape? rest.tail else fixedEscape? 4 rest
      else if isOctalDigit c then
        some ([(numeral 8 (octalRun cs)).toUInt16], cs.drop (octalRun cs).length)
      else some ((CodePoint.ofChar (escapedChar c)).units, rest)

theorem length_le_of_readEscape? {cs left : List Char} {us : List UInt16}
    (read : readEscape? cs = some (us, left)) : left.length ≤ cs.length := by
  have fixed : ∀ count (cs : List Char), fixedEscape? count cs = some (us, left) → left.length ≤ cs.length := by
    intro count cs read
    unfold fixedEscape? at read
    split at read
    · cases read
      simp
    · cases read
  have braced : ∀ cs : List Char, bracedEscape? cs = some (us, left) → left.length ≤ cs.length := by
    intro cs read
    unfold bracedEscape? at read
    dsimp only at read
    split at read
    · cases read
    · next close rest after =>
      split at read
      · cases read
        have shorter := (List.dropWhile_suffix isHexDigit (l := cs)).length_le
        rw [after] at shorter
        exact (Nat.le_succ _).trans shorter
      · cases read
  cases cs with
  | nil => cases read
  | cons c rest =>
    simp only [readEscape?] at read
    split at read
    · cases read
      split
      · simp
        omega
      · simp
    · split at read
      · have := fixed _ _ read
        simp
        omega
      · split at read
        · split at read
          · have := braced _ read
            simp at this ⊢
            omega
          · have := fixed _ _ read
            simp
            omega
        · split at read
          · cases read
            simp
          · cases read
            simp

/-- The value of a literal whose text stands between the quotes. There is none if the text holds a bare line end
or an escape that the language does not have. -/
def literalUnits? (cs : List Char) : Option (List UInt16) :=
  match cs with
  | [] => some []
  | c :: rest =>
      if c = '\\' then
        match _read : readEscape? rest with
        | none => none
        | some (us, left) => (literalUnits? left).map (us ++ ·)
      else if c = '\n' ∨ c = '\r' then none
      else (literalUnits? rest).map ((CodePoint.ofChar c).units ++ ·)
termination_by cs.length
decreasing_by
  · exact Nat.lt_succ_of_le (length_le_of_readEscape? _read)
  · exact Nat.lt_succ_self _

section Meaning

variable {rest left : List Char} {us : List UInt16}

@[simp] theorem literalUnits?_nil : literalUnits? [] = some [] := by
  rw [literalUnits?]

def isPlain (c : Char) : Bool :=
  c != '\\' && c != '\n' && c != '\r'

theorem literalUnits?_plain {c : Char} (plain : isPlain c = true) :
    literalUnits? (c :: rest) = (literalUnits? rest).map ((CodePoint.ofChar c).units ++ ·) := by
  simp only [isPlain, Bool.and_eq_true, bne_iff_ne, ne_eq] at plain
  rw [literalUnits?, if_neg plain.1.1, if_neg (by simp [plain])]

theorem literalUnits?_escape (read : readEscape? rest = some (us, left)) :
    literalUnits? ('\\' :: rest) = (literalUnits? left).map (us ++ ·) := by
  rw [literalUnits?, if_pos rfl]
  split
  next broken =>
    rw [read] at broken
    cases broken
  next us' left' read' =>
    rw [read] at read'
    cases read'
    rfl

theorem literalUnits?_broken (broken : readEscape? rest = none) : literalUnits? ('\\' :: rest) = none := by
  rw [literalUnits?, if_pos rfl]
  split
  next => rfl
  next us' left' read' =>
    rw [broken] at read'
    cases read'

theorem literalUnits?_fragment {cs : List Char} (plain : ∀ c ∈ cs, isPlain c = true) :
    literalUnits? (cs ++ rest) = (literalUnits? rest).map ((Text.ofChars cs).units ++ ·) := by
  induction cs with
  | nil => simp [Text.ofChars, Text.units]
  | cons c cs ih =>
    rw [List.cons_append, literalUnits?_plain (plain c (by simp)), ih fun d found => plain d (by simp [found])]
    simp [Text.ofChars, Text.units, Function.comp_def]

end Meaning

end Script

end SiteSurvey
