import SiteSurvey.Unicode.Ranges

set_option autoImplicit false

namespace SiteSurvey.Unicode

/-- White space and the separators of files, groups, records and units. -/
def blanks : Ranges :=
  [(0x9, 0xD), (0x1C, 0x20), (0x85, 0x85), (0xA0, 0xA0), (0x1680, 0x1680), (0x2000, 0x200A),
   (0x2028, 0x2029), (0x202F, 0x202F), (0x205F, 0x205F), (0x3000, 0x3000)]

def isBlank (n : Nat) : Bool :=
  if n < 0x80 then n == 0x20 || (0x9 ≤ n && n ≤ 0xD) || (0x1C ≤ n && n ≤ 0x1F) else blanks.has n

end SiteSurvey.Unicode
