import SiteSurvey.Json.Basic

set_option autoImplicit false

namespace SiteSurvey.Template

/-- A quotient rounded to the nearest number, a half to the even neighbour. -/
def roundDiv (n d : Nat) : Nat :=
  let q := n / d
  let twice := 2 * (n % d)
  if twice < d then q else if d < twice then q + 1 else q + q % 2

/-- A decimal rounded to a number of places, counted in units of the last place. A number of places
below zero rounds to tens, hundreds and so on. -/
def scaled (mantissa : Nat) (exponent places : Int) : Nat :=
  let shift := exponent + places
  if 0 ≤ shift then mantissa * Nat.pow 10 shift.toNat else roundDiv mantissa (Nat.pow 10 (-shift).toNat)

def digitsOf (n : Nat) : List Char :=
  (Nat.repr n).toList

def padZeros (places : Nat) (digits : List Char) : List Char :=
  List.replicate (places - digits.length) '0' ++ digits

def withPoint (point : Bool) (whole fraction : List Char) : List Char :=
  whole ++ (if point || !fraction.isEmpty then '.' :: fraction else [])

def fixed (point : Bool) (places : Nat) (mantissa : Nat) (exponent : Int) : List Char :=
  let digits := padZeros (places + 1) (digitsOf (scaled mantissa exponent places))
  let split := digits.length - places
  withPoint point (digits.take split) (digits.drop split)

def leading (count : Nat) (mantissa : Nat) (exponent : Int) : List Char × Int :=
  if mantissa == 0 then (List.replicate count '0', 0)
  else
    let power : Int := (digitsOf mantissa).length - 1 + exponent
    let digits := digitsOf (scaled mantissa exponent (count - 1 - power))
    if count < digits.length then (digits.take count, power + 1) else (digits, power)

def powerText (power : Int) : List Char :=
  'e' :: (if power < 0 then '-' else '+') :: padZeros 2 (digitsOf power.natAbs)

def scientific (point : Bool) (places : Nat) (mantissa : Nat) (exponent : Int) : List Char :=
  let (digits, power) := leading (places + 1) mantissa exponent
  withPoint point (digits.take 1) (digits.drop 1) ++ powerText power

def dropZeros (cs : List Char) : List Char :=
  (cs.reverse.dropWhile (· == '0')).reverse

/-- The shorter of the two forms, without zeros at the end unless the point is asked for. -/
def general (point : Bool) (precision : Nat) (mantissa : Nat) (exponent : Int) : List Char :=
  let count := max precision 1
  let (digits, power) := leading count mantissa exponent
  let finish := fun (fraction : List Char) => if point then fraction else dropZeros fraction
  if power < -4 || (count : Int) ≤ power then
    withPoint point (digits.take 1) (finish (digits.drop 1)) ++ powerText power
  else if power < 0 then
    withPoint point ['0'] (finish (List.replicate (-power - 1).toNat '0' ++ digits))
  else
    withPoint point (digits.take (power.toNat + 1)) (finish (digits.drop (power.toNat + 1)))

end SiteSurvey.Template
