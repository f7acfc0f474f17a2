set_option autoImplicit false

namespace SiteSurvey.Site

def split (mark : Char) : List Char → List (List Char)
  | [] => [[]]
  | c :: rest =>
      if c == mark then [] :: split mark rest
      else
        match split mark rest with
        | [] => [[c]]
        | part :: parts => (c :: part) :: parts

def before (mark : Char) (cs : List Char) : List Char :=
  cs.takeWhile (· != mark)

def after (mark : Char) (cs : List Char) : List Char :=
  (cs.dropWhile (· != mark)).drop 1

def afterLast (mark : Char) (cs : List Char) : List Char :=
  (cs.reverse.takeWhile (· != mark)).reverse

def isHexDigit (c : Char) : Bool :=
  c.isDigit || ('a' ≤ c && c ≤ 'f') || ('A' ≤ c && c ≤ 'F')

def decimalValue (cs : List Char) : Nat :=
  cs.foldl (fun n c => n * 10 + (c.toNat - '0'.toNat)) 0

/-- A number up to 255 without a leading zero. -/
def isOctet (cs : List Char) : Bool :=
  !cs.isEmpty && cs.all Char.isDigit && cs.length ≤ 3 && (cs == ['0'] || cs.head? != some '0') &&
    decimalValue cs ≤ 255

def isShortAddress (cs : List Char) : Bool :=
  let octets := split '.' cs
  octets.length == 4 && octets.all isOctet

/-- Sixteen bits in up to four digits. -/
def isGroup (cs : List Char) : Bool :=
  !cs.isEmpty && cs.length ≤ 4 && cs.all isHexDigit

/-- The groups of a long address. Four octets at its end stand for two groups. -/
def groups? (cs : List Char) : Option (List (List Char)) :=
  let parts := split ':' cs
  if parts.length < 3 then none
  else
    let last := parts.getLast?.getD []
    if last.contains '.' then
      if isShortAddress last then some (parts.dropLast ++ [['0'], ['0']]) else none
    else some parts

/-- Eight groups, or fewer around one gap. The gap at an end is written with two colons. -/
def areGroups (parts : List (List Char)) : Bool :=
  let inner := parts.dropLast.drop 1
  let gaps := (inner.filter List.isEmpty).length
  if 9 < parts.length || 1 < gaps then false
  else if gaps == 0 then parts.length == 8 && parts.all isGroup
  else
    let gap := 1 + (inner.takeWhile fun part => !part.isEmpty).length
    let first := parts.take gap
    let last := parts.drop (gap + 1)
    let high := if first == [[]] then [] else first
    let low := if last == [[]] then [] else last
    high.length + low.length < 8 && high.all isGroup && low.all isGroup

/-- Addresses of eight groups, with the name of a zone after a percent sign. -/
def isLongAddress (cs : List Char) : Bool :=
  let zoned := cs.contains '%'
  let zone := after '%' cs
  if cs.contains '/' || (zoned && (zone.isEmpty || zone.contains '%')) then false
  else
    match groups? (before '%' cs) with
    | some parts => areGroups parts
    | none => false

/-- Addresses of versions to come: the letter, a version in hexadecimal digits, a point and a text on
one line. -/
def isFutureAddress (cs : List Char) : Bool :=
  match cs with
  | 'v' :: rest =>
      let version := rest.takeWhile isHexDigit
      match rest.drop version.length with
      | '.' :: text => !version.isEmpty && !text.isEmpty && !text.contains '\n'
      | _ => false
  | _ => false

end SiteSurvey.Site
