import SiteSurvey.Pattern.Item
import SiteSurvey.Unicode.Blank
import SiteSurvey.Unicode.Case
import SiteSurvey.Unicode.Digit
import SiteSurvey.Unicode.Letter

set_option autoImplicit false

namespace SiteSurvey.Pattern

/-- Which differences of case a comparison passes over. -/
inductive Fold where
  | exact
  | ascii
  | unicode
  deriving DecidableEq, Repr, Inhabited

def asciiLower (n : Nat) : Nat :=
  if 0x41 ≤ n && n ≤ 0x5A then n + 32 else n

def Fold.apply : Fold → Nat → Nat
  | exact, n => n
  | ascii, n => asciiLower n
  | unicode, n => Unicode.lowerOne n

/-- Lower-case code points that share their upper case, as classes. -/
def caseClasses : List (List Nat) :=
  [[0x69, 0x131], [0x73, 0x17F], [0xB5, 0x3BC], [0x345, 0x3B9, 0x1FBE], [0x390, 0x1FD3],
   [0x3B0, 0x1FE3], [0x3B2, 0x3D0], [0x3B5, 0x3F5], [0x3B8, 0x3D1], [0x3BA, 0x3F0],
   [0x3C0, 0x3D6], [0x3C1, 0x3F1], [0x3C2, 0x3C3], [0x3C6, 0x3D5], [0x432, 0x1C80],
   [0x434, 0x1C81], [0x43E, 0x1C82], [0x441, 0x1C83], [0x442, 0x1C84, 0x1C85], [0x44A, 0x1C86],
   [0x463, 0x1C87], [0x1C88, 0xA64B], [0x1E61, 0x1E9B], [0xFB05, 0xFB06]]

def caseClass (n : Nat) : List Nat :=
  (caseClasses.find? fun c => c.contains n).getD [n]

/-- The code points with a given lower case. -/
def lowerOrigins (n : Nat) : List Nat :=
  (if Unicode.lowerOne n == n then [n] else []) ++
    (if 0x61 ≤ n && n ≤ 0x7A then [n - 32] else []) ++
    (if n == 0x69 then [0x130] else []) ++
    Unicode.lowerShifts.filterMap fun s =>
      if s.target ≤ n && n ≤ s.target + (s.last - s.first) && (n - s.target) % s.step == 0 then
        some (s.first + (n - s.target))
      else none

def Property.holds (ascii : Bool) : Property → Nat → Bool
  | digit, n => if ascii then 0x30 ≤ n && n ≤ 0x39 else Unicode.isDigit n
  | blank, n => if ascii then n == 0x20 || (0x9 ≤ n && n ≤ 0xD) else Unicode.isBlank n
  | word, n =>
      if ascii then n == 0x5F || (n < 0x80 && Unicode.isAlphanumeric n) else Unicode.isWordPart n

def planeEnd : Nat := 0x10000

/-- A range holds a folded code point if it holds one that folds to it. Beyond the basic plane it has
to hold the folded code point itself or its upper case. -/
def rangeHolds (fold : Fold) (low high n : Nat) : Bool :=
  let inRange (m : Nat) : Bool := low ≤ m && m ≤ high
  let wide : Bool := planeEnd ≤ high && (inRange n || inRange (Unicode.upperOne n))
  match fold with
  | .exact => inRange n
  | .ascii =>
      (inRange n && asciiLower n == n && n < planeEnd) ||
        (0x61 ≤ n && n ≤ 0x7A && inRange (n - 32)) || wide
  | .unicode =>
      ((caseClass n).any fun m => (lowerOrigins m).any fun o => inRange o && o < planeEnd) || wide

def Member.holds (fold : Fold) (ascii : Bool) (n : Nat) : Member → Bool
  | point m =>
      match fold with
      | .exact => m == n
      | .ascii => asciiLower m == n
      | .unicode =>
          if planeEnd ≤ Unicode.lowerOne m then m == n else (caseClass (Unicode.lowerOne m)).contains n
  | range low high => rangeHolds fold low high n
  | property p negated => p.holds ascii n != negated

structure Class where
  fold : Fold
  ascii : Bool
  negated : Bool
  members : List Member
  deriving DecidableEq, Repr, Inhabited

def Class.holds (c : Class) (n : Nat) : Bool :=
  (c.members.any fun m => m.holds c.fold c.ascii (c.fold.apply n)) != c.negated

end SiteSurvey.Pattern
