import SiteSurvey.Json.Basic
import SiteSurvey.Text.Integer

set_option autoImplicit false

namespace SiteSurvey.Json

inductive Complaint where
  | byteOrderMark
  | value
  | propertyName
  | colon
  | comma
  | extraData
  | unterminatedString
  | controlCharacter
  | escape
  | unicodeEscape
  | tooManyDigits (count : Nat)
  deriving DecidableEq, Repr, Inhabited

def Complaint.message : Complaint → String
  | byteOrderMark => "Unexpected UTF-8 BOM (decode using utf-8-sig)"
  | value => "Expecting value"
  | propertyName => "Expecting property name enclosed in double quotes"
  | colon => "Expecting ':' delimiter"
  | comma => "Expecting ',' delimiter"
  | extraData => "Extra data"
  | unterminatedString => "Unterminated string starting at"
  | controlCharacter => "Invalid control character at"
  | escape => "Invalid \\escape"
  | unicodeEscape => "Invalid \\uXXXX escape"
  | tooManyDigits count => Text.tooLongMessage count

structure ReadError where
  complaint : Complaint
  at_ : Nat
  deriving DecidableEq, Repr, Inhabited

def position (document : Text) (offset : Nat) : Nat × Nat :=
  let before := document.take offset
  let lines := before.countP fun c => c.is '\n'
  let column := (before.reverse.takeWhile fun c => !c.is '\n').length
  (lines + 1, column + 1)

def ReadError.message (document : Text) (e : ReadError) : String :=
  let (line, column) := position document e.at_
  s!"{e.complaint.message}: line {line} column {column} (char {e.at_})"

/-- What remains to be read and how much has been read. -/
structure Rest where
  text : Text
  offset : Nat

def Rest.drop (r : Rest) (n : Nat) : Rest :=
  { text := r.text.drop n, offset := r.offset + n }

def isSpace (c : CodePoint) : Bool :=
  c.is ' ' || c.is '\t' || c.is '\n' || c.is '\r'

def Rest.skip (r : Rest) : Rest :=
  { text := r.text.dropWhile isSpace, offset := r.offset + (r.text.takeWhile isSpace).length }

def Rest.starts (r : Rest) (word : String) : Bool :=
  (Text.ofString word).isPrefixOf r.text

def hexValue (c : CodePoint) : Option Nat :=
  if 0x30 ≤ c.val && c.val ≤ 0x39 then some (c.val - 0x30)
  else if 0x61 ≤ c.val && c.val ≤ 0x66 then some (c.val - 0x61 + 10)
  else if 0x41 ≤ c.val && c.val ≤ 0x46 then some (c.val - 0x41 + 10)
  else none

def hex4 : Text → Option Nat
  | a :: b :: c :: d :: _ => do
      let a ← hexValue a
      let b ← hexValue b
      let c ← hexValue c
      let d ← hexValue d
      pure (((a * 16 + b) * 16 + c) * 16 + d)
  | _ => none

def shortEscape (c : CodePoint) : Option Char :=
  match c.char? with
  | some '"' => some '"'
  | some '\\' => some '\\'
  | some '/' => some '/'
  | some 'b' => some '\x08'
  | some 'f' => some '\x0c'
  | some 'n' => some '\n'
  | some 'r' => some '\r'
  | some 't' => some '\t'
  | _ => none

/-- The code point of `\uXXXX` and how many characters after the `u` it takes: four, or ten where a
second escape completes a pair. `text` stands after the `u`, which is at `offset - 1`. -/
def unicodeEscape (text : Text) (offset : Nat) : Except ReadError (Nat × Nat) :=
  if text.length < 5 then .error { complaint := .unicodeEscape, at_ := offset - 1 }
  else
    match hex4 text with
    | none => .error { complaint := .unicodeEscape, at_ := offset - 1 }
    | some high =>
        let more := text.drop 4
        if 0xD800 ≤ high && high ≤ 0xDBFF && 6 < more.length && (Text.ofString "\\u").isPrefixOf more then
          match hex4 (more.drop 2) with
          | none => .error { complaint := .unicodeEscape, at_ := offset + 5 }
          | some low =>
              if 0xDC00 ≤ low && low ≤ 0xDFFF then
                .ok (0x10000 + (high - 0xD800) * 0x400 + (low - 0xDC00), 10)
              else .ok (high, 4)
        else .ok (high, 4)

def readString (opening : Nat) : Nat → Rest → List CodePoint → Except ReadError (Text × Rest)
  | 0, _, _ => .error { complaint := .unterminatedString, at_ := opening }
  | fuel + 1, r, acc =>
      match r.text with
      | [] => .error { complaint := .unterminatedString, at_ := opening }
      | c :: rest =>
          if c.is '"' then .ok (acc.reverse, { text := rest, offset := r.offset + 1 })
          else if c.is '\\' then
            match rest with
            | [] => .error { complaint := .unterminatedString, at_ := opening }
            | d :: more =>
                if d.is 'u' then
                  match unicodeEscape more (r.offset + 2) with
                  | .error e => .error e
                  | .ok (n, taken) =>
                      readString opening fuel
                        { text := more.drop taken, offset := r.offset + 2 + taken }
                        (CodePoint.ofNat n :: acc)
                else
                  match shortEscape d with
                  | none => .error { complaint := .escape, at_ := r.offset }
                  | some e =>
                      readString opening fuel { text := more, offset := r.offset + 2 }
                        (CodePoint.ofChar e :: acc)
          else if c.val ≤ 0x1F then .error { complaint := .controlCharacter, at_ := r.offset }
          else readString opening fuel { text := rest, offset := r.offset + 1 } (c :: acc)

def isDigit (c : CodePoint) : Bool :=
  0x30 ≤ c.val && c.val ≤ 0x39

def digitsValue (ds : Text) : Nat :=
  ds.foldl (fun n c => n * 10 + (c.val - 0x30)) 0

/-- The digits that a number begins with. After a zero there are no more. -/
def wholeDigits : Text → Text
  | [] => []
  | c :: rest => if c.is '0' then [c] else (c :: rest).takeWhile isDigit

def fractionDigits : Text → Text
  | [] => []
  | c :: rest => if c.is '.' then rest.takeWhile isDigit else []

def power? : Text → Option (Int × Nat)
  | [] => none
  | c :: rest =>
      if c.is 'e' || c.is 'E' then
        let signed := rest.head?.any fun d => d.is '+' || d.is '-'
        let down := rest.head?.any fun d => d.is '-'
        let ds := (if signed then rest.drop 1 else rest).takeWhile isDigit
        if ds.isEmpty then none
        else some (if down then -(digitsValue ds : Int) else digitsValue ds, ds.length + if signed then 2 else 1)
      else none

/-- The number of some digits before a point, some after it and a power of ten. It is a whole number if it was
written as one. -/
def numberOf (negative : Bool) (whole fraction : Text) (power : Option Int) : Json :=
  if fraction.isEmpty && power.isNone then
    .int (if negative then -(digitsValue whole : Int) else digitsValue whole)
  else .real (.decimal negative (digitsValue (whole ++ fraction)) (power.getD 0 - fraction.length))

def readNumber (r : Rest) : Option (Json × Rest) :=
  let negative := r.starts "-"
  let r₁ := if negative then r.drop 1 else r
  let whole := wholeDigits r₁.text
  if whole.isEmpty then none
  else
    let r₂ := r₁.drop whole.length
    let fraction := fractionDigits r₂.text
    let r₃ := if fraction.isEmpty then r₂ else r₂.drop (fraction.length + 1)
    let power := power? r₃.text
    some (numberOf negative whole fraction (power.map (·.1)), r₃.drop ((power.map (·.2)).getD 0))

/-- How many digits a number between two points has, if it is an integer that is too long to be read. -/
def excess? (r r' : Rest) : Json → Option Nat
  | .int _ =>
      let count := r'.offset - r.offset - (if r.starts "-" then 1 else 0)
      if Text.maxDigits < count then some count else none
  | _ => none

def words : List (String × Json) :=
  [("null", .null), ("true", .bool true), ("false", .bool false), ("NaN", .real .undefined),
   ("Infinity", .real (.infinite false)), ("-Infinity", .real (.infinite true))]

mutual

def readValue : Nat → Rest → Except ReadError (Json × Rest)
  | 0, r => .error { complaint := .value, at_ := r.offset }
  | fuel + 1, r =>
      match r.text with
      | [] => .error { complaint := .value, at_ := r.offset }
      | c :: rest =>
          let next : Rest := { text := rest, offset := r.offset + 1 }
          if c.is '"' then
            match readString r.offset (rest.length + 1) next [] with
            | .error e => .error e
            | .ok (s, r') => .ok (.string s, r')
          else if c.is '\x7b' then
            let r' := next.skip
            if r'.starts "\x7d" then .ok (.object [], r'.drop 1) else readMembers fuel r' []
          else if c.is '[' then
            let r' := next.skip
            if r'.starts "]" then .ok (.array [], r'.drop 1) else readItems fuel r' []
          else
            match words.find? fun w => r.starts w.1 with
            | some (w, v) => .ok (v, r.drop w.length)
            | none =>
                match readNumber r with
                | some (v, r') =>
                    match excess? r r' v with
                    | some count => .error { complaint := .tooManyDigits count, at_ := r.offset }
                    | none => .ok (v, r')
                | none => .error { complaint := .value, at_ := r.offset }

def readItems : Nat → Rest → List Json → Except ReadError (Json × Rest)
  | 0, r, _ => .error { complaint := .value, at_ := r.offset }
  | fuel + 1, r, acc =>
      match readValue fuel r with
      | .error e => .error e
      | .ok (v, r') =>
          let r'' := r'.skip
          if r''.starts "]" then .ok (.array (v :: acc).reverse, r''.drop 1)
          else if r''.starts "," then readItems fuel (r''.drop 1).skip (v :: acc)
          else .error { complaint := .comma, at_ := r''.offset }

def readMembers : Nat → Rest → List (Text × Json) → Except ReadError (Json × Rest)
  | 0, r, _ => .error { complaint := .propertyName, at_ := r.offset }
  | fuel + 1, r, acc =>
      if r.starts "\"" then
        match readString r.offset (r.text.length + 1) (r.drop 1) [] with
        | .error e => .error e
        | .ok (key, r₁) =>
            let r₂ := r₁.skip
            if r₂.starts ":" then
              match readValue fuel (r₂.drop 1).skip with
              | .error e => .error e
              | .ok (v, r₃) =>
                  let r₄ := r₃.skip
                  let acc' := put acc key v
                  if r₄.starts "\x7d" then .ok (.object acc', r₄.drop 1)
                  else if r₄.starts "," then readMembers fuel (r₄.drop 1).skip acc'
                  else .error { complaint := .comma, at_ := r₄.offset }
            else .error { complaint := .colon, at_ := r₂.offset }
      else .error { complaint := .propertyName, at_ := r.offset }

end

/-- Reads a text that holds one value and blanks around it. -/
def read (document : Text) : Except ReadError Json :=
  match document with
  | [] => .error { complaint := .value, at_ := 0 }
  | c :: _ =>
      if c.val == 0xFEFF then .error { complaint := .byteOrderMark, at_ := 0 }
      else
        let start : Rest := { text := document, offset := 0 }
        match readValue (document.length + 1) start.skip with
        | .error e => .error e
        | .ok (v, r) =>
            let r' := r.skip
            if r'.text.isEmpty then .ok v else .error { complaint := .extraData, at_ := r'.offset }

end SiteSurvey.Json
