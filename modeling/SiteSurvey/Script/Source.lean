import SiteSurvey.Script.Node

set_option autoImplicit false

namespace SiteSurvey.Script

inductive Language where
  | javascript
  | typescript
  | tsx
  deriving DecidableEq, Repr, Inhabited

namespace Language

def name : Language → String
  | javascript => "javascript"
  | typescript => "typescript"
  | tsx => "tsx"

def all : List Language :=
  [javascript, tsx, typescript]

def ofName? (name : String) : Option Language :=
  all.find? fun l => l.name == name

theorem ofName?_name (l : Language) : ofName? l.name = some l := by
  cases l <;> decide

def hasTypes : Language → Bool
  | javascript => false
  | typescript | tsx => true

def hasMarkup : Language → Bool
  | typescript => false
  | javascript | tsx => true

end Language

def isBlank (c : Char) : Bool :=
  let n := c.toNat
  n == 0x20 || (0x9 ≤ n && n ≤ 0xD) || n == 0xA0 || n == 0x1680 || (0x2000 ≤ n && n ≤ 0x200B) ||
    n == 0x2028 || n == 0x2029 || n == 0x202F || n == 0x205F || n == 0x2060 || n == 0x3000 ||
    n == 0xFEFF

def isBreak (c : Char) : Bool :=
  c == '\n' || c.toNat == 0x2028 || c.toNat == 0x2029

/-- ASCII characters that never belong to a name. -/
def isMark (c : Char) : Bool :=
  ":;`\"'@#.,|^&<=>+-*/\\%?!~()[]\x7b\x7d".toList.contains c

/-- Characters of a name; every character that is neither a control, a blank nor a mark. -/
def isNamePart (c : Char) : Bool :=
  0x20 ≤ c.toNat && !isBlank c && !isMark c

def isNameStart (c : Char) : Bool :=
  isNamePart c && !c.isDigit

def isHexDigit (c : Char) : Bool :=
  c.isDigit || ('a' ≤ c && c ≤ 'f') || ('A' ≤ c && c ≤ 'F')

def isOctalDigit (c : Char) : Bool :=
  '0' ≤ c && c ≤ '7'

structure Source where
  chars : Array Char
  rows : Array Nat
  language : Language

namespace Source

def rowsOf (chars : Array Char) : Array Nat :=
  (chars.foldl (fun (acc : Array Nat × Nat) c =>
    let row := if c == '\n' then acc.2 + 1 else acc.2
    (acc.1.push row, row)) (#[0], 0)).1

def ofString (language : Language) (text : String) : Source :=
  let chars := text.toList.toArray
  { chars := chars, rows := rowsOf chars, language := language }

def size (s : Source) : Nat :=
  s.chars.size

def get? (s : Source) (i : Nat) : Option Char :=
  s.chars[i]?

def test (s : Source) (i : Nat) (p : Char → Bool) : Bool :=
  match s.chars[i]? with
  | some c => p c
  | none => false

def is (s : Source) (i : Nat) (c : Char) : Bool :=
  s.test i (· == c)

def row (s : Source) (i : Nat) : Nat :=
  s.rows.getD i 0

def slice (s : Source) (start stop : Nat) : String :=
  String.ofList (s.chars.extract start stop).toList

def startsWith (s : Source) (i : Nat) (word : List Char) : Bool :=
  match word with
  | [] => true
  | c :: rest => s.is i c && s.startsWith (i + 1) rest

/-- The first offset from `i` on, at most `fuel` further, whose character fails a test. -/
def skipWhile (s : Source) (p : Char → Bool) : Nat → Nat → Nat
  | 0, i => i
  | fuel + 1, i => if s.test i p then s.skipWhile p fuel (i + 1) else i

def spanWhile (s : Source) (p : Char → Bool) (i : Nat) : Nat :=
  s.skipWhile p (s.size - i) i

/-- The offset after the next `*/`, if there is one. -/
def blockEnd (s : Source) : Nat → Nat → Option Nat
  | 0, _ => none
  | fuel + 1, i =>
      if s.is i '*' && s.is (i + 1) '/' then some (i + 2)
      else if i < s.size then s.blockEnd fuel (i + 1)
      else none

structure Remark where
  start : Nat
  stop : Nat

def remark (s : Source) (r : Remark) : Node :=
  .remark r.start r.stop (s.row r.start) (s.slice r.start r.stop)

/-- What stands between two tokens: its end, whether it breaks the line, and its comments, last
first. -/
structure Gap where
  stop : Nat
  breaks : Bool
  remarks : List Remark

def anyBreak (s : Source) (start stop : Nat) : Bool :=
  (s.chars.extract start stop).any isBreak

/-- The gap that starts at an offset. An unterminated block comment ends the gap before it. -/
def gapFrom (s : Source) : Nat → Gap → Gap
  | 0, gap => gap
  | fuel + 1, gap =>
      let i := gap.stop
      match s.get? i with
      | none => gap
      | some c =>
          if isBlank c then
            s.gapFrom fuel { gap with stop := i + 1, breaks := gap.breaks || isBreak c }
          else if c == '/' && s.is (i + 1) '/' then
            let j := s.spanWhile (fun c => !isBreak c && c != '\r') (i + 2)
            s.gapFrom fuel { gap with stop := j, remarks := ⟨i, j⟩ :: gap.remarks }
          else if c == '/' && s.is (i + 1) '*' then
            match s.blockEnd (s.size - i) (i + 2) with
            | none => gap
            | some j =>
                s.gapFrom fuel
                  { stop := j, breaks := gap.breaks || s.anyBreak i j, remarks := ⟨i, j⟩ :: gap.remarks }
          else gap

def gap (s : Source) (i : Nat) : Gap :=
  s.gapFrom (s.size - i + 1) { stop := i, breaks := false, remarks := [] }

/-- The end of one character of a name, which may be spelt as an escape. -/
def namePartEnd (s : Source) (first : Bool) (i : Nat) : Option Nat :=
  match s.get? i with
  | none => none
  | some '\\' =>
      if s.is (i + 1) 'u' then
        if s.is (i + 2) '\x7b' then
          let j := s.spanWhile isHexDigit (i + 3)
          if i + 3 < j && s.is j '\x7d' then some (j + 1) else none
        else if s.test (i + 2) isHexDigit && s.test (i + 3) isHexDigit && s.test (i + 4) isHexDigit &&
            s.test (i + 5) isHexDigit then some (i + 6)
        else none
      else none
  | some c => if (if first then isNameStart c else isNamePart c) then some (i + 1) else none

def nameRest (s : Source) : Nat → Nat → Nat
  | 0, i => i
  | fuel + 1, i =>
      match s.namePartEnd false i with
      | some j => s.nameRest fuel j
      | none => i

def nameEnd (s : Source) (i : Nat) : Option Nat :=
  (s.namePartEnd true i).map fun j => s.nameRest (s.size - j) j

/-- Digits with single underscores between them. -/
def digitsFrom (s : Source) (p : Char → Bool) : Nat → Nat → Nat
  | 0, i => i
  | fuel + 1, i =>
      if s.test i p then s.digitsFrom p fuel (i + 1)
      else if s.is i '_' && s.test (i + 1) p then s.digitsFrom p fuel (i + 2)
      else i

def digits (s : Source) (p : Char → Bool) (i : Nat) : Nat :=
  if s.test i p then s.digitsFrom p (s.size - i) i else i

def exponentEnd (s : Source) (i : Nat) : Nat :=
  if s.is i 'e' || s.is i 'E' then
    let j := if s.is (i + 1) '+' || s.is (i + 1) '-' then i + 2 else i + 1
    let k := s.digits Char.isDigit j
    if j < k then k else i
  else i

/-- The end of a literal of base 16, 8 or 2, whose two-character mark stands at `i`. -/
def basedEnd (s : Source) (i : Nat) : Option Nat :=
  let inBase (p : Char → Bool) : Option Nat :=
    let j := s.digits p (i + 2)
    if i + 2 < j then some (if s.is j 'n' then j + 1 else j) else none
  if s.is i '0' then
    if s.is (i + 1) 'x' || s.is (i + 1) 'X' then inBase isHexDigit
    else if s.is (i + 1) 'o' || s.is (i + 1) 'O' then inBase isOctalDigit
    else if s.is (i + 1) 'b' || s.is (i + 1) 'B' then inBase fun c => c == '0' || c == '1'
    else none
  else none

def numberEnd (s : Source) (i : Nat) : Option Nat :=
  match s.basedEnd i with
  | some j => some j
  | none =>
      if s.test i Char.isDigit then
        let j := s.digits Char.isDigit i
        if s.is j 'n' then some (j + 1)
        else if s.is j '.' then some (s.exponentEnd (s.digits Char.isDigit (j + 1)))
        else some (s.exponentEnd j)
      else if s.is i '.' && s.test (i + 1) Char.isDigit then
        some (s.exponentEnd (s.digits Char.isDigit (i + 1)))
      else none

/-- The marks of more than one character, longest first. -/
def longMarks : List (List Char) :=
  [">>>=", "...", "===", "!==", ">>>", "<<=", ">>=", "**=", "&&=", "||=", "??=", "=>", "==", "!=",
   "<=", ">=", "&&", "||", "??", "?.", "++", "--", "+=", "-=", "*=", "/=", "%=", "&=", "|=", "^=",
   "<<", ">>", "**"].map String.toList

/-- The mark at an offset: the longest one, where `?` before a fraction such as `.5` stays apart. -/
def markAt (s : Source) (i : Nat) (c : Char) : String :=
  match longMarks.find? fun m => s.startsWith i m && !(m == ['?', '.'] && s.test (i + 2) Char.isDigit) with
  | some m => String.ofList m
  | none => c.toString

end Source

/-- The class of a token, as far as it does not depend on the tokens before it. -/
inductive Shape where
  | word
  | mark
  | number
  | quote
  | backtick
  | finish
  | unknown
  deriving DecidableEq, Repr, Inhabited

/-- The token that starts at an offset: its class, and its text if it is a word or a mark. -/
def Source.headAt (s : Source) (i : Nat) : Shape × String :=
  match s.get? i with
  | none => (.finish, "")
  | some c =>
      if c == '"' || c == '\'' then (.quote, "")
      else if c == '`' then (.backtick, "")
      else if c.isDigit || (c == '.' && s.test (i + 1) Char.isDigit) then (.number, "")
      else
        match s.nameEnd i with
        | some j => (.word, s.slice i j)
        | none => if isMark c && c != '\\' then (.mark, s.markAt i c) else (.unknown, "")

end SiteSurvey.Script
