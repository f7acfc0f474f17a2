import SiteSurvey.Text.Quoted

set_option autoImplicit false

namespace SiteSurvey

/-- Why a volume cannot do what it is asked for. The last kind of fault lies with the system underneath, and
not with what stands on the volume. -/
inductive VolumeFault where
  | missing
  | busy
  | present
  | notFolder
  | isFolder
  | nameTooLong
  | tooManyLinks
  | nullByte
  | other (number : Nat) (text : String)
  deriving DecidableEq, Repr, Inhabited

namespace VolumeFault

def number : VolumeFault → Nat
  | missing => 2
  | busy => 16
  | present => 17
  | notFolder => 20
  | isFolder => 21
  | nameTooLong => 36
  | tooManyLinks => 40
  | nullByte => 22
  | other number _ => number

def text : VolumeFault → String
  | missing => "No such file or directory"
  | busy => "Device or resource busy"
  | present => "File exists"
  | notFolder => "Not a directory"
  | isFolder => "Is a directory"
  | nameTooLong => "File name too long"
  | tooManyLinks => "Too many levels of symbolic links"
  | nullByte => "embedded null byte"
  | other _ text => text

/-- Faults that only say that there is nothing at the end of a path. -/
def meansAbsent : VolumeFault → Bool
  | missing | notFolder | tooManyLinks | nullByte => true
  | _ => false

end VolumeFault

/-- A fault and the paths that were at hand: the one that was asked for, and the one that it was to be
moved to. -/
structure Trouble where
  fault : VolumeFault
  path : Option String
  target : Option String
  deriving DecidableEq, Repr

namespace Trouble

def at_ (fault : VolumeFault) (path : String) : Trouble :=
  { fault, path := some path, target := none }

def message (t : Trouble) : String :=
  match t.fault with
  | .nullByte => VolumeFault.nullByte.text
  | fault =>
      "[Errno " ++ Nat.repr fault.number ++ "] " ++ fault.text ++
        (match t.path with
          | some path => ": " ++ Text.quotedString path
          | none => "") ++
        (match t.target with
          | some target => " -> " ++ Text.quotedString target
          | none => "")

end Trouble

end SiteSurvey
