import SiteSurvey.Json.Basic
import SiteSurvey.Text.Integer

set_option autoImplicit false

namespace SiteSurvey

namespace Real

def trimZeros : Nat → Nat → Int → Nat × Int
  | 0, m, e => (m, e)
  | fuel + 1, m, e => if m != 0 && m % 10 == 0 then trimZeros fuel (m / 10) (e + 1) else (m, e)

/-- Digits with a point after some of them, and zeros where it stands before or behind them all. -/
def positional (digits : List Char) (point : Int) : String :=
  if point ≤ 0 then "0." ++ String.ofList (List.replicate (-point).toNat '0' ++ digits)
  else if (digits.length : Int) ≤ point then
    String.ofList (digits ++ List.replicate (point.toNat - digits.length) '0') ++ ".0"
  else String.ofList (digits.take point.toNat) ++ "." ++ String.ofList (digits.drop point.toNat)

def scientific (digits : List Char) (power : Int) : String :=
  let tail := if digits.length == 1 then "" else "." ++ String.ofList (digits.drop 1)
  let shown := Nat.repr power.natAbs
  let padded := if shown.length < 2 then "0" ++ shown else shown
  String.ofList (digits.take 1) ++ tail ++ "e" ++ (if power < 0 then "-" else "+") ++ padded

/-- The text of a number without its sign: positional while its leading digit stands between the fifth
place after the point and the sixteenth before it, with a power of ten otherwise. -/
def unsignedText (mantissa : Nat) (exponent : Int) : String :=
  if mantissa == 0 then "0.0"
  else
    let (m, e) := trimZeros (Nat.repr mantissa).length mantissa exponent
    let digits := (Nat.repr m).toList
    let point : Int := digits.length + e
    if -4 < point && point ≤ 16 then positional digits point else scientific digits (point - 1)

def text : Real → String
  | .undefined => "nan"
  | .infinite negative => if negative then "-inf" else "inf"
  | .decimal negative mantissa exponent => (if negative then "-" else "") ++ unsignedText mantissa exponent

/-- The text of a number inside a document, which has words of its own for the values beyond all
decimals. -/
def jsonText : Real → String
  | .undefined => "NaN"
  | .infinite negative => if negative then "-Infinity" else "Infinity"
  | r => r.text

end Real

namespace Json

def hexDigit (n : Nat) : CodePoint :=
  CodePoint.ofNat (if n < 10 then 0x30 + n else 0x61 + (n - 10))

def unicodeUnit (n : Nat) : Text :=
  Text.ofString "\\u" ++
    [hexDigit (n / 4096 % 16), hexDigit (n / 256 % 16), hexDigit (n / 16 % 16), hexDigit (n % 16)]

/-- A code point inside a string. With `ascii` everything beyond ASCII is escaped, as a pair of
units where one does not suffice. -/
def escaped (ascii : Bool) (c : CodePoint) : Text :=
  match c.char? with
  | some '"' => "\\\""
  | some '\\' => "\\\\"
  | some '\n' => "\\n"
  | some '\r' => "\\r"
  | some '\t' => "\\t"
  | some '\x08' => "\\b"
  | some '\x0c' => "\\f"
  | _ =>
      if c.val < 0x20 then unicodeUnit c.val
      else if ascii && 0x7E < c.val then
        if c.val < 0x10000 then unicodeUnit c.val
        else
          unicodeUnit (0xD800 + (c.val - 0x10000) / 0x400) ++
            unicodeUnit (0xDC00 + (c.val - 0x10000) % 0x400)
      else [c]

def quoted (ascii : Bool) (t : Text) : Text :=
  "\"" ++ t.flatMap (escaped ascii) ++ "\""

/-- How a document is laid out: on one line, or with each item on a line of its own, two blanks
deeper than what holds it. -/
structure Layout where
  ascii : Bool
  indented : Bool
  deriving DecidableEq, Repr

def Layout.compact : Layout := { ascii := true, indented := false }

def Layout.report : Layout := { ascii := false, indented := true }

def Layout.separator (l : Layout) (depth : Nat) : Text :=
  if l.indented then ",\n" ++ Text.ofString (String.ofList (List.replicate (2 * depth) ' ')) else ", "

def Layout.edge (l : Layout) (depth : Nat) : Text :=
  if l.indented then "\n" ++ Text.ofString (String.ofList (List.replicate (2 * depth) ' ')) else []

mutual

def printAt (l : Layout) (depth : Nat) : Json → Text
  | .null => "null"
  | .bool true => "true"
  | .bool false => "false"
  | .int n => Text.ofInt n
  | .real r => r.jsonText
  | .string s => quoted l.ascii s
  | .array [] => "[]"
  | .array (v :: rest) =>
      "[" ++ l.edge (depth + 1) ++ printAt l (depth + 1) v ++ printItems l (depth + 1) rest ++
        l.edge depth ++ "]"
  | .object [] => "\x7b\x7d"
  | .object ((k, v) :: rest) =>
      "\x7b" ++ l.edge (depth + 1) ++ quoted l.ascii k ++ ": " ++ printAt l (depth + 1) v ++
        printMembers l (depth + 1) rest ++ l.edge depth ++ "\x7d"

def printItems (l : Layout) (depth : Nat) : List Json → Text
  | [] => []
  | v :: rest => l.separator depth ++ printAt l depth v ++ printItems l depth rest

def printMembers (l : Layout) (depth : Nat) : List (Text × Json) → Text
  | [] => []
  | (k, v) :: rest =>
      l.separator depth ++ quoted l.ascii k ++ ": " ++ printAt l depth v ++ printMembers l depth rest

end

def print (l : Layout) (v : Json) : Text :=
  printAt l 0 v

mutual

/-- Some integer of a value has too many digits to be written. -/
def hasLongInteger : Json → Bool
  | .int n => Text.maxDigits < (Nat.repr n.natAbs).length
  | .array items => anyLongInteger items
  | .object members => anyLongMember members
  | _ => false

def anyLongInteger : List Json → Bool
  | [] => false
  | v :: rest => v.hasLongInteger || anyLongInteger rest

def anyLongMember : List (Text × Json) → Bool
  | [] => false
  | (_, v) :: rest => v.hasLongInteger || anyLongMember rest

end

end Json

end SiteSurvey
