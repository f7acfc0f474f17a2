import SiteSurvey.Text.Basic

set_option autoImplicit false

namespace SiteSurvey

structure Moment where
  year : Int
  month : Nat
  day : Nat
  hour : Nat
  minute : Nat
  second : Nat
  micro : Nat
  deriving DecidableEq, Repr, Inhabited

namespace Moment

/-- The day of a count that starts at the beginning of 1970. Years are reckoned from March on, so that a
leap day is the last day of its year, and in periods of four hundred years, which are all alike. -/
def civil (days : Int) : Int × Nat × Nat :=
  let shifted := days + 719468
  let era := shifted.fdiv 146097
  let dayOfEra := (shifted.fmod 146097).toNat
  let yearOfEra := (dayOfEra - dayOfEra / 1460 + dayOfEra / 36524 - dayOfEra / 146096) / 365
  let dayOfYear := dayOfEra - (365 * yearOfEra + yearOfEra / 4 - yearOfEra / 100)
  let shiftedMonth := (5 * dayOfYear + 2) / 153
  let day := dayOfYear - (153 * shiftedMonth + 2) / 5 + 1
  let month := if shiftedMonth < 10 then shiftedMonth + 3 else shiftedMonth - 9
  let year := yearOfEra + era * 400
  (if month ≤ 2 then year + 1 else year, month, day)

def ofSeconds (seconds : Int) : Moment :=
  let (year, month, day) := civil (seconds.fdiv 86400)
  let inDay := (seconds.fmod 86400).toNat
  { year, month, day, hour := inDay / 3600, minute := inDay / 60 % 60, second := inDay % 60, micro := 0 }

def padded (places n : Nat) : String :=
  let digits := Nat.repr n
  String.ofList (List.replicate (places - digits.length) '0') ++ digits

def yearText (m : Moment) : String :=
  (Text.ofInt m.year).toString

def dateText (m : Moment) : String :=
  m.yearText ++ "-" ++ padded 2 m.month ++ "-" ++ padded 2 m.day

def minuteText (m : Moment) : String :=
  m.dateText ++ " " ++ padded 2 m.hour ++ ":" ++ padded 2 m.minute

def secondText (m : Moment) : String :=
  m.minuteText ++ ":" ++ padded 2 m.second

/-- The moment to the microsecond, without characters that a file name cannot hold. -/
def stamp (m : Moment) : String :=
  m.dateText ++ "T" ++ padded 2 m.hour ++ "-" ++ padded 2 m.minute ++ "-" ++ padded 2 m.second ++ "-" ++
    padded 6 m.micro ++ "Z"

end Moment

end SiteSurvey
