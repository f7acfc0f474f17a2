import SiteSurvey.Pattern.Item

set_option autoImplicit false

namespace SiteSurvey.Pattern

structure Width where
  least : Nat
  most : Nat
  deriving DecidableEq, Repr, Inhabited

namespace Width

/-- Widths from here on are all the same. -/
def ceiling : Nat := Nat.pow 2 64

def of (least most : Nat) : Width :=
  { least := min least ceiling, most := min most ceiling }

def zero : Width := { least := 0, most := 0 }

def one : Width := { least := 1, most := 1 }

def add (v w : Width) : Width :=
  of (v.least + w.least) (v.most + w.most)

def either (v w : Width) : Width :=
  of (min v.least w.least) (max v.most w.most)

def times (w : Width) (least : Nat) (most : Option Nat) : Width :=
  of (w.least * least)
    (match most with
      | some n => w.most * n
      | none => if w.most == 0 then 0 else ceiling)

end Width

def Item.width (groups : Nat → Width) : Item → Width
  | empty => .zero
  | sequence first rest => (first.width groups).add (rest.width groups)
  | either first second => (first.width groups).either (second.width groups)
  | literal _ | except _ | any | set _ _ => .one
  | place _ => .zero
  | group _ _ _ body => body.width groups
  | loop _ least most body => (body.width groups).times least most
  | atomic body => body.width groups
  | look _ _ _ => .zero
  | same number => groups number
  | whether _ yes no => (yes.width groups).either (no.width groups)

end SiteSurvey.Pattern
