import SiteSurvey.Json.Display
import SiteSurvey.Template.Fault
import SiteSurvey.Template.Number

set_option autoImplicit false

namespace SiteSurvey.Template

structure Spot where
  left : Bool := false
  sign : Bool := false
  blank : Bool := false
  alternate : Bool := false
  zeros : Bool := false
  width : Option Nat := none
  precision : Option Nat := none
  deriving DecidableEq, Repr, Inhabited

/-- The values that are still to be used, and the members that can be asked for by name. -/
structure Supply where
  members : Option (List (Text × Json))
  values : List Json
  deriving Inhabited

structure Progress where
  rest : Text
  index : Nat
  supply : Supply
  deriving Inhabited

abbrev Filling := StateT Progress (Except Fault)

def fail {α : Type} (f : Fault) : Filling α :=
  throw f

def advance : Filling (Option CodePoint) := do
  let p ← get
  match p.rest with
  | [] => return none
  | c :: rest =>
      set { p with rest, index := p.index + 1 }
      return some c

def nextValue : Filling Json := do
  let p ← get
  match p.supply.values with
  | [] => fail .tooFew
  | v :: values =>
      set { p with supply := { p.supply with values } }
      return v

def keyOf (depth : Nat) : Text → Option (Text × Text)
  | [] => none
  | c :: rest =>
      if c.is ')' then
        match depth with
        | 0 => some ([], rest)
        | d + 1 => (keyOf d rest).map fun (key, after) => (c :: key, after)
      else
        (keyOf (if c.is '(' then depth + 1 else depth) rest).map fun (key, after) => (c :: key, after)

def takeKey : Filling Unit := do
  let p ← get
  match p.rest with
  | c :: rest =>
      if c.is '(' then
        match p.supply.members with
        | none => fail .noMembers
        | some members =>
            match keyOf 0 rest with
            | none => fail .openKey
            | some (key, after) =>
                match Json.lookup members key with
                | none => fail (.missingMember key)
                | some v =>
                    set { p with
                      rest := after, index := p.index + key.length + 2,
                      supply := { p.supply with values := [v] } }
  | [] => return

def flag (s : Spot) (c : CodePoint) : Option Spot :=
  if c.is '-' then some { s with left := true }
  else if c.is '+' then some { s with sign := true }
  else if c.is ' ' then some { s with blank := true }
  else if c.is '#' then some { s with alternate := true }
  else if c.is '0' then some { s with zeros := true }
  else none

def takeFlags : Nat → Spot → Filling (Spot × Option CodePoint)
  | 0, s => return (s, none)
  | fuel + 1, s => do
      match ← advance with
      | none => return (s, none)
      | some c =>
          match flag s c with
          | some s' => takeFlags fuel s'
          | none => return (s, some c)

def digit? (c : CodePoint) : Option Nat :=
  if 0x30 ≤ c.val && c.val ≤ 0x39 then some (c.val - 0x30) else none

def takeDigits : Nat → Nat → Filling (Nat × Option CodePoint)
  | 0, n => return (n, none)
  | fuel + 1, n => do
      match ← advance with
      | none => return (n, none)
      | some c =>
          match digit? c with
          | some d => takeDigits fuel (n * 10 + d)
          | none => return (n, some c)

def integerValue : Json → Option Int
  | .int n => some n
  | .bool b => some (if b then 1 else 0)
  | _ => none

/-- A number of places, either written out or, for a star, the next value. -/
def takePlaces (fuel : Nat) (c : Option CodePoint) : Filling (Option Int × Option CodePoint) := do
  match c with
  | none => return (none, none)
  | some c =>
      if c.is '*' then
        match integerValue (← nextValue) with
        | none => fail .widthNotInteger
        | some n => return (some n, ← advance)
      else
        match digit? c with
        | none => return (none, some c)
        | some d =>
            let (n, after) ← takeDigits fuel d
            return (some n, after)

def takeWidth (fuel : Nat) (s : Spot) (c : Option CodePoint) : Filling (Spot × Option CodePoint) := do
  match ← takePlaces fuel c with
  | (none, after) => return (s, after)
  | (some n, after) => return ({ s with left := s.left || n < 0, width := some n.natAbs }, after)

def takePrecision (fuel : Nat) (s : Spot) (c : Option CodePoint) :
    Filling (Spot × Option CodePoint) := do
  match c with
  | none => return (s, none)
  | some c =>
      if c.is '.' then
        let (n, after) ← takePlaces fuel (← advance)
        return ({ s with precision := some (n.getD 0).toNat }, after)
      else return (s, some c)

def skipSize (c : Option CodePoint) : Filling (Option CodePoint) := do
  match c with
  | none => return none
  | some c => if c.is 'h' || c.is 'l' || c.is 'L' then advance else return some c

/-- How a value goes into its place: the sign, the mark of its base and the rest, and what fills up the
room before it. -/
structure Written where
  sign : Option Char
  base : List Char
  body : Text
  fill : Char

/-- A value at its full width. Zeros go between the sign and the digits, blanks before the sign or
behind the digits. -/
def Written.place (s : Spot) (w : Written) : Text :=
  let sign := match w.sign with
    | some c => [c]
    | none => []
  let used := sign.length + w.base.length + w.body.length
  let room := s.width.getD 0 - used
  let head := Text.ofChars (sign ++ w.base)
  if s.left then head ++ w.body ++ Text.ofChars (List.replicate room ' ')
  else if w.fill == '0' then head ++ Text.ofChars (List.replicate room '0') ++ w.body
  else Text.ofChars (List.replicate room ' ') ++ head ++ w.body

def signOf (s : Spot) (negative : Bool) : Option Char :=
  if negative then some '-' else if s.sign then some '+' else if s.blank then some ' ' else none

def fillOf (s : Spot) : Char :=
  if s.zeros then '0' else ' '

def writeText (s : Spot) (t : Text) : Text :=
  let body := match s.precision with
    | some n => t.take n
    | none => t
  Written.place s { sign := none, base := [], body, fill := ' ' }

def upperDigits (cs : List Char) : List Char :=
  cs.map Char.toUpper

def writeInteger (s : Spot) (kind : CodePoint) (n : Int) : Text :=
  let (radix, mark) : Nat × List Char :=
    if kind.is 'o' then (8, ['0', 'o'])
    else if kind.is 'x' then (16, ['0', 'x'])
    else if kind.is 'X' then (16, ['0', 'X'])
    else (10, [])
  let plain := Nat.toDigits radix n.natAbs
  let digits := padZeros (s.precision.getD 0) (if kind.is 'X' then upperDigits plain else plain)
  Written.place s
    { sign := signOf s (n < 0), base := if s.alternate then mark else [],
      body := Text.ofChars digits, fill := fillOf s }

def writeReal (s : Spot) (kind : CodePoint) (negative : Bool) (mantissa : Nat) (exponent : Int) : Text :=
  let precision := s.precision.getD 6
  let plain :=
    if kind.is 'e' || kind.is 'E' then scientific s.alternate precision mantissa exponent
    else if kind.is 'f' || kind.is 'F' then fixed s.alternate precision mantissa exponent
    else general s.alternate precision mantissa exponent
  let digits := if kind.is 'E' || kind.is 'G' then upperDigits plain else plain
  Written.place s
    { sign := signOf s negative, base := [], body := Text.ofChars digits, fill := fillOf s }

/-- A real that is no decimal is written as a word. -/
def writeWord (s : Spot) (kind : CodePoint) (negative : Bool) (word : String) : Text :=
  let upper := kind.is 'E' || kind.is 'F' || kind.is 'G'
  let letters := if upper then upperDigits word.toList else word.toList
  Written.place s
    { sign := signOf s negative, base := [], body := Text.ofChars letters, fill := fillOf s }

def wholePart : Json → Option Int
  | .real (.decimal negative mantissa exponent) =>
      let n : Nat :=
        if 0 ≤ exponent then mantissa * Nat.pow 10 exponent.toNat else mantissa / Nat.pow 10 (-exponent).toNat
      some (if negative then -(n : Int) else n)
  | v => integerValue v

/-- A value shown in ASCII: what lies beyond is written as its number. -/
def asciiPoint (c : CodePoint) : Text :=
  if c.val < 0x80 then [c]
  else if c.val ≤ 0xFF then Text.ofString "\\x" ++ Text.hexDigits 2 c.val
  else if c.val ≤ 0xFFFF then Text.ofString "\\u" ++ Text.hexDigits 4 c.val
  else Text.ofString "\\U" ++ Text.hexDigits 8 c.val

def writeCharacter (s : Spot) : Json → Except Fault Text
  | .string [c] => .ok (Written.place s { sign := none, base := [], body := [c], fill := ' ' })
  | .string _ => .error .notCharacter
  | v =>
      match integerValue v with
      | none => .error .notCharacter
      | some n =>
          if 0 ≤ n && n < 0x110000 then
            .ok (Written.place s
              { sign := none, base := [], body := [CodePoint.ofNat n.toNat], fill := ' ' })
          else .error .noCodePoint

def among (kinds : String) (c : CodePoint) : Bool :=
  kinds.toList.any c.is

def write (s : Spot) (kind : CodePoint) (index : Nat) (v : Json) : Except Fault Text :=
  if kind.is 's' then .ok (writeText s v.display)
  else if kind.is 'r' then .ok (writeText s v.shown)
  else if kind.is 'a' then .ok (writeText s (v.shown.flatMap asciiPoint))
  else if among "diu" kind then
    match wholePart v with
    | some n => .ok (writeInteger s kind n)
    | none => .error (.notReal kind v.typeName)
  else if among "oxX" kind then
    match integerValue v with
    | some n => .ok (writeInteger s kind n)
    | none => .error (.notInteger kind v.typeName)
  else if among "eEfFgG" kind then
    match v with
    | .real (.decimal negative mantissa exponent) => .ok (writeReal s kind negative mantissa exponent)
    | .real (.infinite negative) => .ok (writeWord s kind negative "inf")
    | .real .undefined => .ok (writeWord s kind false "nan")
    | _ =>
        match integerValue v with
        | some n => .ok (writeReal s kind (n < 0) n.natAbs 0)
        | none => .error (.notFloat v.typeName)
  else if kind.is 'c' then writeCharacter s v
  else .error (.unknownKind kind index)

def fillSpot : Filling Text := do
  takeKey
  let fuel := (← get).rest.length + 1
  let (s₁, c₁) ← takeFlags fuel {}
  let (s₂, c₂) ← takeWidth fuel s₁ c₁
  let (s, c₃) ← takePrecision fuel s₂ c₂
  match ← skipSize c₃ with
  | none => fail .openSpot
  | some kind =>
      if kind.is '%' then return [kind]
      else
        let index := (← get).index - 1
        let v ← nextValue
        match write s kind index v with
        | .ok t => return t
        | .error f => fail f

def fillFrom : Nat → Filling Text
  | 0 => return []
  | fuel + 1 => do
      match ← advance with
      | none => return []
      | some c =>
          let t ← if c.is '%' then fillSpot else pure [c]
          return t ++ (← fillFrom fuel)

/-- Values for a template. One object alone gives its members by name. -/
def Supply.ofValues : List Json → Supply
  | [.object (m :: ms)] => { members := some (m :: ms), values := [.object (m :: ms)] }
  | values => { members := none, values }

/-- A template with its places filled. All values have to be used, unless they were asked for by
name. -/
def fill (template : Text) (values : List Json) : Except Failure Text :=
  let start : Progress := { rest := template, index := 0, supply := .ofValues values }
  match (fillFrom (template.length + 1)).run start with
  | .error f => .error f.failure
  | .ok (t, p) =>
      if p.supply.members.isNone && !p.supply.values.isEmpty then .error (Fault.failure .tooMany)
      else .ok t

end SiteSurvey.Template
