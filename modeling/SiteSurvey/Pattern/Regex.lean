import SiteSurvey.Pattern.Class
import SiteSurvey.Pattern.Flaw
import SiteSurvey.Pattern.Width

set_option autoImplicit false

namespace SiteSurvey.Pattern

/-- Places with everything that decides whether a text has them settled. -/
inductive Spot where
  | textStart
  | lineStart
  | textFinish
  | lineFinish
  | lastLineFinish
  | boundary (ascii : Bool)
  | inner (ascii : Bool)
  deriving DecidableEq, Repr, Inhabited

/-- A pattern with the flags worked into its parts. -/
inductive Regex where
  | empty
  | sequence (first rest : Regex)
  | either (first second : Regex)
  | character (c : Class)
  | spot (s : Spot)
  | group (number : Nat) (body : Regex)
  | loop (greed : Greed) (least : Nat) (most : Option Nat) (body : Regex)
  | atomic (body : Regex)
  | lookAhead (negated : Bool) (body : Regex)
  | lookBehind (negated : Bool) (width : Nat) (body : Regex)
  | same (group : Nat) (fold : Fold)
  | whether (group : Nat) (yes no : Regex)
  deriving DecidableEq, Repr, Inhabited

def Flags.fold (f : Flags) : Fold :=
  if f.ignoreCase then (if f.ascii then .ascii else .unicode) else .exact

def Place.spot (f : Flags) : Place → Spot
  | lineStart => if f.multiline then .lineStart else .textStart
  | lineFinish => if f.multiline then .lineFinish else .lastLineFinish
  | textStart => .textStart
  | textFinish => .textFinish
  | boundary => .boundary f.ascii
  | inner => .inner f.ascii

/-- The farthest that a lookbehind can reach. -/
def reachCeiling : Nat := 4294967295

def Greed.operator : Greed → String
  | greedy => "MAX_REPEAT"
  | lazy => "MIN_REPEAT"
  | possessive => "POSSESSIVE_REPEAT"

def literalClass (f : Flags) (negated : Bool) (n : Nat) : Class :=
  { fold := f.fold, ascii := f.ascii, negated, members := [.point (f.fold.apply n)] }

def Item.settle (groups : Nat → Width) : Flags → Item → Except Flaw Regex
  | _, empty => .ok .empty
  | f, sequence first rest => do
      return .sequence (← first.settle groups f) (← rest.settle groups f)
  | f, either first second => do
      return .either (← first.settle groups f) (← second.settle groups f)
  | f, literal n => .ok (.character (literalClass f false n))
  | f, except n => .ok (.character (literalClass f true n))
  | f, any =>
      .ok (.character
        { fold := .exact, ascii := f.ascii, negated := true,
          members := if f.dotAll then [] else [.point 10] })
  | f, set negated members =>
      .ok (.character { fold := f.fold, ascii := f.ascii, negated, members })
  | f, place p => .ok (.spot (p.spot f))
  | f, group number on off body => do
      let inner ← body.settle groups (f.inside on off)
      match number with
      | some n => return .group n inner
      | none => return inner
  | f, loop greed least most body => do
      if f.template then .error (.repeatInTemplate greed.operator)
      else return .loop greed least most (← body.settle groups f)
  | f, atomic body => do return .atomic (← body.settle groups f)
  | f, look ahead negated body => do
      if ahead then return .lookAhead negated (← body.settle groups f)
      else
        let width := body.width groups
        if reachCeiling < width.least then .error .lookbehindTooFar
        else if width.least != width.most then .error .lookbehindWidth
        else return .lookBehind negated width.least (← body.settle groups f)
  | f, same number => .ok (.same number f.fold)
  | f, whether number yes no => do
      return .whether number (← yes.settle groups f) (← no.settle groups f)

end SiteSurvey.Pattern
