import SiteSurvey.Text.Basic
import SiteSurvey.Unicode.Printable

set_option autoImplicit false

namespace SiteSurvey.Text

def hexDigits : Nat → Nat → Text
  | 0, _ => []
  | places + 1, n =>
      hexDigits places (n / 16) ++
        [CodePoint.ofNat (if n % 16 < 10 then 0x30 + n % 16 else 0x57 + n % 16)]

/-- A code point between quotes: what cannot be printed is written as its number, with as few of two,
four or eight digits as hold it. -/
def quotedPoint (quote : CodePoint) (c : CodePoint) : Text :=
  if c == quote || c.is '\\' then [CodePoint.ofChar '\\', c]
  else if c.is '\t' then "\\t"
  else if c.is '\n' then "\\n"
  else if c.is '\r' then "\\r"
  else if Unicode.isPrintable c.val then [c]
  else if c.val ≤ 0xFF then ofString "\\x" ++ hexDigits 2 c.val
  else if c.val ≤ 0xFFFF then ofString "\\u" ++ hexDigits 4 c.val
  else ofString "\\U" ++ hexDigits 8 c.val

/-- A text is quoted with single quotes, unless it holds those and no double ones. -/
def quote (t : Text) : CodePoint :=
  if (t.any fun c => c.is '\'') && !(t.any fun c => c.is '"') then CodePoint.ofChar '"'
  else CodePoint.ofChar '\''

def quoted (t : Text) : Text :=
  t.quote :: t.flatMap (quotedPoint t.quote) ++ [t.quote]

def quotedString (s : String) : String :=
  (quoted (ofString s)).toString

end SiteSurvey.Text
