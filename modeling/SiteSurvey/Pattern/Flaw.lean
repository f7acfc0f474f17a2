import SiteSurvey.Text.Quoted

set_option autoImplicit false

namespace SiteSurvey.Pattern

inductive Flaw where
  | escapeAtEnd
  | badEscape (text : String)
  | incompleteEscape (text : String)
  | octalTooLarge (text : String)
  | missingBrace
  | missingName (what : String)
  | unterminatedName (terminator : Char)
  | unknownCharacter (name : String)
  | openGroup
  | groupInLookbehind
  | unknownGroup (number : Nat)
  | unterminatedSet
  | badRange (low high : String)
  | boundsReversed
  | nothingToRepeat
  | repeatedRepeat
  | unexpectedEnd
  | unknownExtension (text : String)
  | unterminatedComment
  | unterminatedGroup
  | badGroupName (name : String)
  | unknownGroupName (name : String)
  | groupNameTwice (name : String) (number earlier : Nat)
  | groupZero
  | tooManyBranches
  | lateFlags
  | unbalanced
  | localeFlag
  | clashingTypeFlags
  | unknownFlag
  | missingFlagsEnd
  | missingFlag
  | missingColon
  | globalFlagOn
  | globalFlagOff
  | typeFlagOff
  | flagOnAndOff
  | lookbehindWidth
  | lookbehindTooFar
  | repeatInTemplate (operator : String)
  | repeatTooLarge
  | asciiAndUnicode
  deriving DecidableEq, Repr

namespace Flaw

def text : Flaw → String
  | escapeAtEnd => "bad escape (end of pattern)"
  | badEscape t => "bad escape " ++ t
  | incompleteEscape t => "incomplete escape " ++ t
  | octalTooLarge t => "octal escape value " ++ t ++ " outside of range 0-0o377"
  | missingBrace => "missing \x7b"
  | missingName what => "missing " ++ what
  | unterminatedName terminator => "missing " ++ terminator.toString ++ ", unterminated name"
  | unknownCharacter name => "undefined character name " ++ Text.quotedString name
  | openGroup => "cannot refer to an open group"
  | groupInLookbehind => "cannot refer to group defined in the same lookbehind subpattern"
  | unknownGroup number => "invalid group reference " ++ Nat.repr number
  | unterminatedSet => "unterminated character set"
  | badRange low high => "bad character range " ++ low ++ "-" ++ high
  | boundsReversed => "min repeat greater than max repeat"
  | nothingToRepeat => "nothing to repeat"
  | repeatedRepeat => "multiple repeat"
  | unexpectedEnd => "unexpected end of pattern"
  | unknownExtension t => "unknown extension ?" ++ t
  | unterminatedComment => "missing ), unterminated comment"
  | unterminatedGroup => "missing ), unterminated subpattern"
  | badGroupName name => "bad character in group name " ++ Text.quotedString name
  | unknownGroupName name => "unknown group name " ++ Text.quotedString name
  | groupNameTwice name number earlier =>
      "redefinition of group name " ++ Text.quotedString name ++ " as group " ++ Nat.repr number ++
        "; was group " ++ Nat.repr earlier
  | groupZero => "bad group number"
  | tooManyBranches => "conditional backref with more than two branches"
  | lateFlags => "global flags not at the start of the expression"
  | unbalanced => "unbalanced parenthesis"
  | localeFlag => "bad inline flags: cannot use 'L' flag with a str pattern"
  | clashingTypeFlags => "bad inline flags: flags 'a', 'u' and 'L' are incompatible"
  | unknownFlag => "unknown flag"
  | missingFlagsEnd => "missing -, : or )"
  | missingFlag => "missing flag"
  | missingColon => "missing :"
  | globalFlagOn => "bad inline flags: cannot turn on global flag"
  | globalFlagOff => "bad inline flags: cannot turn off global flag"
  | typeFlagOff => "bad inline flags: cannot turn off flags 'a', 'u' and 'L'"
  | flagOnAndOff => "bad inline flags: flag turned on and off"
  | lookbehindWidth => "look-behind requires fixed-width pattern"
  | lookbehindTooFar => "looks too much behind"
  | repeatInTemplate operator => "internal: unsupported template operator " ++ operator
  | repeatTooLarge => "the repetition number is too large"
  | asciiAndUnicode => "ASCII and UNICODE flags are incompatible"

end Flaw

/-- A flaw and, for most of them, where it shows in the pattern. -/
structure Problem where
  flaw : Flaw
  position : Option Nat
  deriving DecidableEq, Repr

/-- The problem in words. A pattern of several lines has the line and the column named too. -/
def Problem.message (pattern : List Char) (p : Problem) : String :=
  match p.position with
  | none => p.flaw.text
  | some position =>
      let before := pattern.take position
      let line := before.count '\n' + 1
      let column := (before.reverse.takeWhile (· != '\n')).length + 1
      p.flaw.text ++ " at position " ++ Nat.repr position ++
        (if pattern.contains '\n' then
          " (line " ++ Nat.repr line ++ ", column " ++ Nat.repr column ++ ")"
        else "")

end SiteSurvey.Pattern
