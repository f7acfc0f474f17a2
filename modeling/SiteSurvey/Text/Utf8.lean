import SiteSurvey.Text.Quoted

set_option autoImplicit false

namespace SiteSurvey

inductive ByteFault where
  | start
  | continuation
  | ending
  deriving DecidableEq, Repr, Inhabited

def ByteFault.message : ByteFault → String
  | start => "invalid start byte"
  | continuation => "invalid continuation byte"
  | ending => "unexpected end of data"

namespace Utf8

/-- The bytes of a code point, a surrogate written as any other. -/
def encodeOne (n : Nat) : List UInt8 :=
  if n < 0x80 then [n.toUInt8]
  else if n < 0x800 then [(0xC0 + n / 0x40).toUInt8, (0x80 + n % 0x40).toUInt8]
  else if n < 0x10000 then
    [(0xE0 + n / 0x1000).toUInt8, (0x80 + n / 0x40 % 0x40).toUInt8, (0x80 + n % 0x40).toUInt8]
  else
    [(0xF0 + n / 0x40000).toUInt8, (0x80 + n / 0x1000 % 0x40).toUInt8,
      (0x80 + n / 0x40 % 0x40).toUInt8, (0x80 + n % 0x40).toUInt8]

def isTail (b : UInt8) : Bool :=
  0x80 ≤ b && b ≤ 0xBF

/-- The values that the second byte of a sequence may take after a given first one. -/
def secondBounds (first : UInt8) : UInt8 × UInt8 :=
  if first == 0xE0 then (0xA0, 0xBF)
  else if first == 0xED then (0x80, 0x9F)
  else if first == 0xF0 then (0x90, 0xBF)
  else if first == 0xF4 then (0x80, 0x8F)
  else (0x80, 0xBF)

def lengthOf (first : UInt8) : Option Nat :=
  if first < 0x80 then some 1
  else if 0xC2 ≤ first && first ≤ 0xDF then some 2
  else if 0xE0 ≤ first && first ≤ 0xEF then some 3
  else if 0xF0 ≤ first && first ≤ 0xF4 then some 4
  else none

/-- How many bytes from the second on continue a sequence that begins at an offset. -/
def tailLength (bytes : ByteArray) (i : Nat) (first : UInt8) (length : Nat) : Nat :=
  let (low, high) := secondBounds first
  let isSecond (b : UInt8) : Bool := low ≤ b && b ≤ high
  let has (test : UInt8 → Bool) (j : Nat) : Bool :=
    match bytes[j]? with
    | some b => test b
    | none => false
  if !has isSecond (i + 1) then 0
  else if length == 2 || !has isTail (i + 2) then 1
  else if length == 3 || !has isTail (i + 3) then 2
  else 3

def tailValue (bytes : ByteArray) (i : Nat) : Nat :=
  match bytes[i]? with
  | some b => b.toNat % 0x40
  | none => 0

def sequenceValue (bytes : ByteArray) (i : Nat) (first : UInt8) (length : Nat) : Nat :=
  if length == 2 then first.toNat % 0x20 * 0x40 + tailValue bytes (i + 1)
  else if length == 3 then
    (first.toNat % 0x10 * 0x40 + tailValue bytes (i + 1)) * 0x40 + tailValue bytes (i + 2)
  else
    ((first.toNat % 0x08 * 0x40 + tailValue bytes (i + 1)) * 0x40 + tailValue bytes (i + 2)) * 0x40 +
      tailValue bytes (i + 3)

/-- What stands at an offset: a code point or a fault, and how many bytes it takes. -/
def next (bytes : ByteArray) (i : Nat) (first : UInt8) : (Nat ⊕ ByteFault) × Nat :=
  match lengthOf first with
  | none => (.inr .start, 1)
  | some 1 => (.inl first.toNat, 1)
  | some length =>
      let got := tailLength bytes i first length + 1
      if got == length then (.inl (sequenceValue bytes i first length), length)
      else (.inr (if bytes.size ≤ i + got then .ending else .continuation), got)

/-- Where reading bytes strictly fails: the place, the byte there, how many bytes are spoilt and why. -/
structure Failure where
  position : Nat
  byte : UInt8
  count : Nat
  fault : ByteFault
  deriving DecidableEq, Repr

def Failure.message (f : Failure) : Text :=
  let what : Text :=
    if f.count == 1 then
      Text.ofString "byte 0x" ++ Text.hexDigits 2 f.byte.toNat ++ " in position " ++ Text.ofNat f.position
    else
      Text.ofString "bytes in position " ++ Text.ofNat f.position ++ "-" ++
        Text.ofNat (f.position + f.count - 1)
  Text.ofString "'utf-8' codec can't decode " ++ what ++ ": " ++ f.fault.message

def decodeFrom (bytes : ByteArray) : Nat → Nat → List CodePoint → Except Failure Text
  | 0, _, acc => .ok acc.reverse
  | fuel + 1, i, acc =>
      match bytes[i]? with
      | none => .ok acc.reverse
      | some b =>
          match next bytes i b with
          | (.inl n, count) => decodeFrom bytes fuel (i + count) (CodePoint.ofNat n :: acc)
          | (.inr fault, count) => .error { position := i, byte := b, count, fault }

def decode (bytes : ByteArray) : Except Failure Text :=
  decodeFrom bytes bytes.size 0 []

def decodeLossyFrom (bytes : ByteArray) : Nat → Nat → Array Char → Array Char
  | 0, _, acc => acc
  | fuel + 1, i, acc =>
      match bytes[i]? with
      | none => acc
      | some b =>
          match next bytes i b with
          | (.inl n, count) => decodeLossyFrom bytes fuel (i + count) (acc.push (Char.ofNat n))
          | (.inr _, count) => decodeLossyFrom bytes fuel (i + count) (acc.push '�')

/-- The text of bytes, with the replacement character for each spoilt start of a sequence. -/
def decodeLossy (bytes : ByteArray) : Array Char :=
  decodeLossyFrom bytes bytes.size 0 #[]

def encode (t : Text) : ByteArray :=
  t.foldl (fun bytes c => (encodeOne c.val).foldl ByteArray.push bytes) ByteArray.empty

/-- The places of the first surrogates in a row, which no UTF-8 file can hold: where they begin and how
many they are. -/
def firstSurrogates? (t : Text) : Option (Nat × List CodePoint) :=
  match t.dropWhile (fun c => !c.isSurrogate) with
  | [] => none
  | rest => some (t.length - rest.length, rest.takeWhile CodePoint.isSurrogate)

def surrogateMessage (position : Nat) (surrogates : List CodePoint) : Text :=
  let what : Text :=
    match surrogates with
    | [c] => Text.ofString "character '\\u" ++ Text.hexDigits 4 c.val ++ "' in position " ++ Text.ofNat position
    | more =>
        Text.ofString "characters in position " ++ Text.ofNat position ++ "-" ++
          Text.ofNat (position + more.length - 1)
  Text.ofString "'utf-8' codec can't encode " ++ what ++ ": surrogates not allowed"

end Utf8

end SiteSurvey
