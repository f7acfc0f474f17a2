set_option autoImplicit false

namespace SiteSurvey.Unicode

/-- Code points beyond ASCII whose compatibility form holds a delimiter of addresses: a slash, a
question mark, a number sign, an at sign or a colon. -/
def hiddenDelimiters : List Nat :=
  [0x2047, 0x2048, 0x2049, 0x2100, 0x2101, 0x2105, 0x2106, 0x2A74, 0xFE13, 0xFE16, 0xFE55, 0xFE56,
   0xFE5F, 0xFE6B, 0xFF03, 0xFF0F, 0xFF1A, 0xFF1F, 0xFF20]

def hidesDelimiter (n : Nat) : Bool :=
  hiddenDelimiters.contains n

end SiteSurvey.Unicode
