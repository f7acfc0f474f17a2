import SiteSurvey.Pattern.Match
import SiteSurvey.Pattern.Parser

set_option autoImplicit false

namespace SiteSurvey

structure Pattern where
  source : String
  groups : Nat
  regex : Pattern.Regex
  deriving DecidableEq, Repr, Inhabited

structure Span where
  start : Nat
  stop : Nat
  deriving DecidableEq, Repr, Inhabited

namespace Span

def width (s : Span) : Nat :=
  s.stop - s.start

def text (s : Span) (chars : Array Char) : String :=
  String.ofList (chars.extract s.start s.stop).toList

end Span

namespace Pattern

/-- Reads a pattern and works its flags into it. -/
def compile (flags : Flags) (source : String) : Except Problem Pattern :=
  match readPattern flags source.toList with
  | .error p => .error p
  | .ok (item, draft) =>
      match item.settle (Reading.groupWidth draft) draft.flags with
      | .error flaw => .error { flaw, position := none }
      | .ok regex => .ok { source, groups := draft.widths.length, regex }

def matchAt? (p : Pattern) (text : Array Char) (start : Nat) : Option Span :=
  (p.regex.match text { position := start, marks := Array.replicate (2 * p.groups) none } some).map
    fun st => { start, stop := st.position }

def searchFrom (p : Pattern) (text : Array Char) : Nat → Nat → Option Span
  | 0, _ => none
  | fuel + 1, start =>
      match p.matchAt? text start with
      | some s => some s
      | none => searchFrom p text fuel (start + 1)

def search? (p : Pattern) (text : Array Char) (start : Nat) : Option Span :=
  p.searchFrom text (text.size + 1 - start) start

end Pattern

end SiteSurvey
