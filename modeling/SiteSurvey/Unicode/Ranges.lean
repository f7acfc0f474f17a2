set_option autoImplicit false

namespace SiteSurvey.Unicode

/-- Code points as closed ranges in ascending order. -/
abbrev Ranges := List (Nat × Nat)

def Ranges.has (rs : Ranges) (n : Nat) : Bool :=
  rs.any fun r => r.1 ≤ n && n ≤ r.2

end SiteSurvey.Unicode
