import SiteSurvey.Failure
import SiteSurvey.Json.Display
import SiteSurvey.Site.Address
import SiteSurvey.Text.Case
import SiteSurvey.Text.Trim
import SiteSurvey.Unicode.Delimiter

set_option autoImplicit false

namespace SiteSurvey.Site

inductive AddressFault where
  | brackets
  | futureAddress
  | shortInBrackets
  | noAddress (text : String)
  | hiddenDelimiter (authority : String)
  deriving DecidableEq, Repr

def AddressFault.message : AddressFault → String
  | brackets => "Invalid IPv6 URL"
  | futureAddress => "IPvFuture address is invalid"
  | shortInBrackets => "An IPv4 address cannot be in brackets"
  | noAddress text => Text.quotedString text ++ " does not appear to be an IPv4 or IPv6 address"
  | hiddenDelimiter authority =>
      "netloc '" ++ authority ++ "' contains invalid characters under NFKC normalization"

def isSchemePart (c : Char) : Bool :=
  c.isAlphanum || c == '+' || c == '-' || c == '.'

def withoutScheme (cs : List Char) : List Char :=
  let scheme := before ':' cs
  if cs.contains ':' && (scheme.head?.map Char.isAlpha).getD false && scheme.all isSchemePart then
    after ':' cs
  else cs

def endsAuthority (c : Char) : Bool :=
  c == '/' || c == '?' || c == '#'

/-- The part of an address that names the host, with what stands around the name. Controls at the
start and the ends of lines are left out of account. -/
def authority (cs : List Char) : List Char :=
  let cleaned := (cs.dropWhile (·.toNat ≤ 0x20)).filter fun c => c != '\t' && c != '\r' && c != '\n'
  match withoutScheme cleaned with
  | '/' :: '/' :: rest => rest.takeWhile fun c => !endsAuthority c
  | _ => []

def checkBracketed (cs : List Char) : Except AddressFault Unit :=
  if cs.head? == some 'v' then
    if isFutureAddress cs then .ok () else .error .futureAddress
  else if isShortAddress cs then .error .shortInBrackets
  else if isLongAddress cs then .ok ()
  else .error (.noAddress (String.ofList cs))

def checkAuthority (cs : List Char) : Except AddressFault Unit := do
  let opens := cs.contains '['
  let closes := cs.contains ']'
  if opens != closes then throw .brackets
  if opens then checkBracketed (before ']' (after '[' cs))
  if cs.any fun c => Unicode.hidesDelimiter c.toNat then
    throw (.hiddenDelimiter (String.ofList cs))

def hostPart (cs : List Char) : List Char :=
  let host := afterLast '@' cs
  if host.contains '[' then before ']' (after '[' host) else before ':' host

/-- The name of a host in small letters, but for the zone of an address. -/
def lowerHost (cs : List Char) : Text :=
  Text.lower (Text.ofChars (before '%' cs)) ++ Text.ofChars (cs.dropWhile (· != '%'))

def addressHost (cs : List Char) : Except AddressFault Text :=
  let found := authority cs
  match checkAuthority found with
  | .error fault => .error fault
  | .ok () => .ok (lowerHost (hostPart found))

def hasScheme : List Char → Bool
  | [] => false
  | c :: rest => (c == ':' && ['/', '/'].isPrefixOf rest) || hasScheme rest

def isFolderName (t : Text) : Bool :=
  !t.isEmpty && t != Text.ofString "." && t != Text.ofString ".." && !t.any (·.is '\\')

def noHostname (site : Text) : Failure :=
  .invalidInput (Text.ofString "Cannot derive a hostname from site identifier: " ++ site.quoted)

/-- The name of the folder of a site, which is given by an address or by the bare name of a host. -/
def hostname (site : String) : Except Failure String :=
  let trimmed := Text.trim (Text.ofString site)
  let cs := Text.toChars trimmed
  let host : Except AddressFault Text :=
    if hasScheme cs then addressHost cs
    else .ok (Text.ofChars (before ':' (before '/' cs)))
  match host with
  | .error fault => .error (.badValue fault.message)
  | .ok found =>
      let name := Text.lower found
      if isFolderName name then .ok name.toString else .error (noHostname trimmed)

/-- The hostname of a site that may be given by any value. A value that counts as nothing is taken for
an empty text. -/
def hostnameOf : Json → Except Failure String
  | .string s => hostname s.toString
  | v =>
      if v.isNothing then hostname ""
      else .error (.noMember ("'" ++ v.typeName ++ "' object has no attribute 'strip'"))

end SiteSurvey.Site
