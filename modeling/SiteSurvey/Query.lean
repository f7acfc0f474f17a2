import SiteSurvey.Json.Reader
import SiteSurvey.Text.Utf8

set_option autoImplicit false

namespace SiteSurvey.Query

def splitAt (at_ : Char) : Text → List Text
  | [] => [[]]
  | c :: rest =>
      if c.is at_ then [] :: splitAt at_ rest
      else
        match splitAt at_ rest with
        | [] => [[c]]
        | part :: parts => (c :: part) :: parts

/-- The bytes of ASCII text, each percent sign with two hexadecimal digits being the byte it names. -/
def percentBytes : Text → List UInt8
  | [] => []
  | [c] => [c.val.toUInt8]
  | [c, d] => [c.val.toUInt8, d.val.toUInt8]
  | c :: d :: e :: rest =>
      if c.is '%' then
        match Json.hexValue d, Json.hexValue e with
        | some high, some low => (high * 16 + low).toUInt8 :: percentBytes rest
        | _, _ => c.val.toUInt8 :: percentBytes (d :: e :: rest)
      else c.val.toUInt8 :: percentBytes (d :: e :: rest)

def decodeAscii (ascii : Text) : Text :=
  Text.ofChars (Utf8.decodeLossy ⟨(percentBytes ascii).toArray⟩).toList

/-- The text of a component: each stretch of ASCII is read as bytes of its own, and everything else
stands for itself. -/
def decodeFrom : Text → Text → Text
  | ascii, [] => decodeAscii ascii.reverse
  | ascii, c :: rest =>
      if c.val < 0x80 then decodeFrom (c :: ascii) rest
      else decodeAscii ascii.reverse ++ c :: decodeFrom [] rest

def decode (component : Text) : Text :=
  decodeFrom [] (component.map fun c => if c.is '+' then CodePoint.ofChar ' ' else c)

def fieldName (field : Text) : Text :=
  decode (field.takeWhile fun c => !c.is '=')

/-- The names in a query, in order. Fields without any text are no fields. -/
def names (query : Text) : List Text :=
  ((splitAt '&' query).filter fun field => !field.isEmpty).map fieldName

def addNew (known : List Text) (name : Text) : List Text :=
  if known.contains name then known else known ++ [name]

/-- The names in a query, each at its first place, with question marks before the query ignored. -/
def distinctNames (query : Text) : List Text :=
  (names (query.dropWhile fun c => c.is '?')).foldl addNew []

end SiteSurvey.Query
