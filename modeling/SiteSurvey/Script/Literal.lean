import SiteSurvey.Script.Parse
import SiteSurvey.Text.Utf8

set_option autoImplicit false

namespace SiteSurvey.Script

def hexDigitValue (c : Char) : Nat :=
  if c.isDigit then c.toNat - 0x30 else if 'a' ≤ c then c.toNat - 0x57 else c.toNat - 0x37

def hexNumber (cs : List Char) : Nat :=
  cs.foldl (fun n c => n * 16 + hexDigitValue c) 0

def octalNumber (cs : List Char) : Nat :=
  cs.foldl (fun n c => n * 8 + (c.toNat - 0x30)) 0

def letterEscape (c : Char) : Option Char :=
  match c with
  | 'a' => some '\x07'
  | 'b' => some '\x08'
  | 'f' => some '\x0c'
  | 'n' => some '\n'
  | 'r' => some '\r'
  | 't' => some '\t'
  | 'v' => some '\x0b'
  | '\\' => some '\\'
  | '\'' => some '\''
  | '"' => some '"'
  | _ => none

/-- A character as the bytes that encode it, each read as a code point of its own. -/
def spreadBytes (c : Char) : Text :=
  (Utf8.encodeOne c.toNat).map fun b => CodePoint.ofNat b.toNat

/-- What an escape sequence stands for. An escape that names no character keeps its backslash, and
one that asks for a code point by another notation loses it. -/
def decodeEscape (sequence : List Char) : Text :=
  match sequence with
  | '\\' :: c :: rest =>
      if c == '\n' then Text.ofChars rest
      else if isOctalDigit c then [CodePoint.ofNat (octalNumber (c :: rest))]
      else if c == 'x' then [CodePoint.ofNat (hexNumber rest)]
      else if c == 'u' then
        if rest.head? == some '\x7b' then Text.ofChars (c :: rest)
        else [CodePoint.ofNat (hexNumber rest)]
      else if c == 'N' || c == 'U' then Text.ofChars (c :: rest)
      else
        match letterEscape c with
        | some d => Text.ofChars (d :: rest)
        | none => CodePoint.ofChar '\\' :: (c :: rest).flatMap spreadBytes
  | other => Text.ofChars other

def fragmentValue (part : Node) : Text :=
  match part.kind with
  | .stringFragment => Text.ofString part.text
  | .escapeSequence => decodeEscape part.text.toList
  | _ => []

def stringValue? (n : Node) : Option Text :=
  if n.kind == .string then some (n.children.flatMap fragmentValue) else none

def skeletonPart (placeholder : Text) (part : Node) : Text :=
  match part.kind with
  | .stringFragment | .escapeSequence => Text.ofString part.text
  | .templateSubstitution => placeholder
  | _ => []

/-- The fixed text of a template, with a placeholder for each substitution. -/
def skeleton? (placeholder : Text) (n : Node) : Option Text :=
  if n.kind == .templateString then some (n.children.flatMap (skeletonPart placeholder)) else none

end SiteSurvey.Script
