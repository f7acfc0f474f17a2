import SiteSurvey.Failure

set_option autoImplicit false

namespace SiteSurvey.Template

inductive Fault where
  | tooFew
  | tooMany
  | noMembers
  | missingMember (key : Text)
  | openKey
  | openSpot
  | widthNotInteger
  | unknownKind (kind : CodePoint) (index : Nat)
  | notReal (kind : CodePoint) (type : String)
  | notInteger (kind : CodePoint) (type : String)
  | notFloat (type : String)
  | notCharacter
  | noCodePoint
  deriving DecidableEq, Repr

def Fault.failure : Fault → Failure
  | tooFew => .badType "not enough arguments for format string"
  | tooMany => .badType "not all arguments converted during string formatting"
  | noMembers => .badType "format requires a mapping"
  | missingMember key => .badKey key.quoted
  | openKey => .badValue "incomplete format key"
  | openSpot => .badValue "incomplete format"
  | widthNotInteger => .badType "* wants int"
  | unknownKind kind index =>
      let shown : Text := if 31 ≤ kind.val && kind.val ≤ 126 then [kind] else "?"
      .badValue (Text.ofString "unsupported format character '" ++ shown ++ "' (0x" ++
        String.ofList (Nat.toDigits 16 kind.val) ++ ") at index " ++ Text.ofNat index)
  | notReal kind type =>
      .badType (Text.ofString "%" ++ [kind] ++ " format: a real number is required, not " ++ type)
  | notInteger kind type =>
      .badType (Text.ofString "%" ++ [kind] ++ " format: an integer is required, not " ++ type)
  | notFloat type => .badType ("must be real number, not " ++ type)
  | notCharacter => .badType "%c requires int or char"
  | noCodePoint => .tooLarge "%c arg not in range(0x110000)"

end SiteSurvey.Template
