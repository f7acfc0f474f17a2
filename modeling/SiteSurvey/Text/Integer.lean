import SiteSurvey.Text.Quoted
import SiteSurvey.Unicode.Blank
import SiteSurvey.Unicode.Digit

set_option autoImplicit false

namespace SiteSurvey.Text

inductive IntegerFault where
  | malformed
  | tooLong (digits : Nat)
  deriving DecidableEq, Repr

/-- Blanks that may stand around an integer: white space, but no separators of files and records. -/
def isPadding (c : CodePoint) : Bool :=
  c.val == 0x20 || (0x9 ≤ c.val && c.val ≤ 0xD) || (0x7F < c.val && Unicode.isBlank c.val)

/-- The values of digits with at most one low line between each two of them. `afterDigit` says that a
digit stands right before. -/
def digitsFrom (afterDigit : Bool) : Text → Option (List Nat)
  | [] => if afterDigit then some [] else none
  | c :: rest =>
      match Unicode.digitValue? c.val with
      | some d => (digitsFrom true rest).map (d :: ·)
      | none => if c.is '_' && afterDigit then digitsFrom false rest else none

def maxDigits : Nat := 4300

def integer (t : Text) : Except IntegerFault Int :=
  let trimmed := ((t.dropWhile isPadding).reverse.dropWhile isPadding).reverse
  let negative := match trimmed with
    | c :: _ => c.is '-'
    | [] => false
  let body := match trimmed with
    | c :: rest => if c.is '-' || c.is '+' then rest else trimmed
    | [] => []
  match digitsFrom false body with
  | none => .error .malformed
  | some ds =>
      if maxDigits < ds.length then .error (.tooLong ds.length)
      else
        let n : Nat := ds.foldl (fun n d => n * 10 + d) 0
        .ok (if negative then -(n : Int) else n)

def tooLongMessage (count : Nat) : String :=
  "Exceeds the limit (4300 digits) for integer string conversion: value has " ++ Nat.repr count ++
    " digits; use sys.set_int_max_str_digits() to increase the limit"

def IntegerFault.message (t : Text) : IntegerFault → Text
  | malformed => Text.ofString "invalid literal for int() with base 10: " ++ t.quoted.take 200
  | tooLong count => Text.ofString (tooLongMessage count)

end SiteSurvey.Text
