set_option autoImplicit false

namespace SiteSurvey

/-- A code point of Unicode. Unlike a character it may be a surrogate, because an escape in a script
or in a report can name one on its own. -/
structure CodePoint where
  val : Nat
  isLt : val < 0x110000
  deriving DecidableEq, Repr

namespace CodePoint

instance : Inhabited CodePoint := ⟨⟨0xFFFD, by decide⟩⟩

/-- The code point of a number, or the replacement character for a number out of range. -/
def ofNat (n : Nat) : CodePoint :=
  if h : n < 0x110000 then ⟨n, h⟩ else ⟨0xFFFD, by decide⟩

def ofChar (c : Char) : CodePoint :=
  ⟨c.toNat, by
    have := c.valid
    simp only [Char.toNat, UInt32.isValidChar, Nat.isValidChar] at *
    omega⟩

def isSurrogate (c : CodePoint) : Bool :=
  0xD800 ≤ c.val && c.val ≤ 0xDFFF

def char? (c : CodePoint) : Option Char :=
  if c.isSurrogate then none else some (Char.ofNat c.val)

def is (c : CodePoint) (d : Char) : Bool :=
  c.val == d.toNat

end CodePoint

/-- A text that may hold surrogates. -/
abbrev Text := List CodePoint

namespace Text

def ofChars (cs : List Char) : Text :=
  cs.map CodePoint.ofChar

def ofString (s : String) : Text :=
  ofChars s.toList

instance : Coe String Text := ⟨ofString⟩

def hasSurrogate (t : Text) : Bool :=
  t.any CodePoint.isSurrogate

def toChars (t : Text) : List Char :=
  t.map fun c => c.char?.getD '�'

def toString (t : Text) : String :=
  String.ofList (toChars t)

def string? (t : Text) : Option String :=
  if hasSurrogate t then none else some (toString t)

def ofNat (n : Nat) : Text :=
  ofString (Nat.repr n)

def ofInt (n : Int) : Text :=
  ofString (match n with
    | .ofNat n => Nat.repr n
    | .negSucc n => "-" ++ Nat.repr (n + 1))

def join (between : Text) : List Text → Text
  | [] => []
  | [t] => t
  | t :: rest => t ++ between ++ join between rest

theorem ofChars_append (xs ys : List Char) : ofChars (xs ++ ys) = ofChars xs ++ ofChars ys := by
  simp [ofChars]

end Text

end SiteSurvey
