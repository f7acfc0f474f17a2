import SiteSurvey.Detector.Basic
import SiteSurvey.Json.Display

set_option autoImplicit false

namespace SiteSurvey.Detector

/-- How the maker of a detector writes down its pattern: as a plain value, as a pattern over text with
flags, or as one over bytes. -/
inductive Offer where
  | value (v : Json)
  | compiled (flags : Pattern.Flags) (source : String)
  | bytes (flags : Pattern.Flags) (source : String)
  deriving Inhabited

structure Misfit where
  problem : Pattern.Problem
  source : String
  deriving DecidableEq, Repr

def Misfit.message (m : Misfit) : String :=
  m.problem.message m.source.toList

/-- What an offer comes to. Only a pattern that is to be compiled beforehand can fail here. -/
def Offer.outcome : Offer → Except Misfit Export
  | value (.string s) => .ok (.text s.toString)
  | value v => .ok (.other v.typeName)
  | compiled flags source =>
      match Pattern.compile flags source with
      | .ok p => .ok (.compiled p)
      | .error problem => .error { problem, source }
  | bytes flags source =>
      match Pattern.compile flags source with
      | .ok _ => .ok .bytes
      | .error problem => .error { problem, source }

end SiteSurvey.Detector
