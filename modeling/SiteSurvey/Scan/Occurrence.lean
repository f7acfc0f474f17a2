import SiteSurvey.Pattern.Basic

set_option autoImplicit false

namespace SiteSurvey.Scan

def occurrencesFrom (p : Pattern) (text : Array Char) : Nat → Nat → List Span
  | 0, _ => []
  | fuel + 1, start =>
      match p.search? text start with
      | none => []
      | some s =>
          if s.stop ≤ s.start then occurrencesFrom p text fuel (s.stop + 1)
          else s :: occurrencesFrom p text fuel s.stop

/-- The stretches of a text that match a pattern, in order. The search goes on where a match ends, and
one character further on after a match without any text, which is not listed. -/
def occurrences (p : Pattern) (text : Array Char) : List Span :=
  occurrencesFrom p text (text.size + 2) 0

end SiteSurvey.Scan
