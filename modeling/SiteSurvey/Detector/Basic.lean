import SiteSurvey.Pattern.Basic

set_option autoImplicit false

namespace SiteSurvey

/-- A named pattern that can be applied over and over. -/
structure Detector where
  name : String
  pattern : Pattern
  deriving DecidableEq, Repr, Inhabited

namespace Detector

inductive Export where
  | text (source : String)
  | compiled (pattern : Pattern)
  | bytes
  | other (type : String)
  deriving DecidableEq, Repr

inductive Rejection where
  | badPattern (message : String)
  | bytes
  | wrongType (type : String)
  | matchesEmpty
  | zeroWidth (at_ : Nat) (sample : String)
  | wrongSuffix (path : String)
  | importFailed (message : String)
  | noPattern
  | badName
  deriving DecidableEq, Repr

def Rejection.message : Rejection → String
  | badPattern message => "Invalid pattern: " ++ message
  | bytes => "Pattern must match text, not bytes"
  | wrongType type => "PATTERN must be a compiled regex or string, got " ++ type
  | matchesEmpty => "Pattern matches the empty string and cannot be applied repeatedly"
  | zeroWidth at_ sample =>
      "Pattern makes zero-width matches (at " ++ Nat.repr at_ ++ " in " ++ Text.quotedString sample ++
        ") and cannot be applied repeatedly"
  | wrongSuffix path => "Cannot load detector module " ++ path
  | importFailed message => "Failed to import detector module: " ++ message
  | noPattern => "Module does not export PATTERN"
  | badName => "NAME must be a non-empty string"

/-- Why no detector comes of something: it is turned down under a name, or the pattern is beyond all
bounds, or its flags exclude each other. -/
inductive Refusal where
  | rejected (name : String) (reason : Rejection)
  | beyondBounds (p : Pattern.Problem)
  | clashingFlags (p : Pattern.Problem)
  deriving DecidableEq, Repr

/-- Texts in which a detector must find nothing without any text. -/
def samples : List String :=
  ["a", " a1_-", "secret", "x secret y", "key=\"value\";\n", "0"]

def emptyMatchFrom (p : Pattern) (text : Array Char) : Nat → Nat → Option Nat
  | 0, _ => none
  | fuel + 1, start =>
      match p.search? text start with
      | none => none
      | some s => if s.stop ≤ s.start then some s.start else emptyMatchFrom p text fuel s.stop

/-- Where a pattern first matches without any text, among its matches one after the other. -/
def emptyMatch? (p : Pattern) (text : Array Char) : Option Nat :=
  emptyMatchFrom p text (text.size + 2) 0

/-- What keeps a pattern from being applied over and over. -/
def obstacle? (p : Pattern) : Option Rejection :=
  if (p.matchAt? #[] 0).isSome then some .matchesEmpty
  else samples.findSome? fun sample =>
    (emptyMatch? p sample.toList.toArray).map fun at_ => .zeroWidth at_ sample

def check (name : String) (p : Pattern) : Except Refusal Detector :=
  match obstacle? p with
  | some reason => .error (.rejected name reason)
  | none => .ok { name, pattern := p }

def make (name : String) : Export → Except Refusal Detector
  | .text source =>
      match Pattern.compile .none source with
      | .ok p => check name p
      | .error p =>
          match p.flaw with
          | .repeatTooLarge => .error (.beyondBounds p)
          | .asciiAndUnicode => .error (.clashingFlags p)
          | _ => .error (.rejected name (.badPattern (p.message source.toList)))
  | .compiled p => check name p
  | .bytes => .error (.rejected name .bytes)
  | .other type => .error (.rejected name (.wrongType type))

end Detector

end SiteSurvey
