import SiteSurvey.Path
import SiteSurvey.Script.Parse
import SiteSurvey.Text.Case
import SiteSurvey.Text.Quoted

set_option autoImplicit false

namespace SiteSurvey.Script

/-- The language of a file, by its suffix in any case. -/
def Language.ofPath (p : Path) : Language :=
  let suffix := Text.lowerString p.suffix
  if suffix == ".ts" || suffix == ".mts" || suffix == ".cts" then .typescript
  else if suffix == ".tsx" then .tsx
  else .javascript

def Language.unsupported (name : String) : String :=
  "Unsupported language: " ++ Text.quotedString name ++ ". Supported: " ++
    String.intercalate ", " (Language.all.map Language.name)

structure SyntaxFault where
  file : Option String
  line : Option Nat
  deriving DecidableEq, Repr

namespace SyntaxFault

def subject (f : SyntaxFault) : String :=
  match f.file with
  | none | some "" => "Syntax error in <source>"
  | some file => "Syntax error in " ++ file

def message (f : SyntaxFault) : String :=
  match f.line with
  | none => f.subject
  | some line => f.subject ++ " near line " ++ Nat.repr line

end SyntaxFault

def Tree.strict (t : Tree) (file : Option String) : Except SyntaxFault Tree :=
  if t.hasErrors then .error { file, line := t.firstErrorLine } else .ok t

def parseStrict (language : Language) (text : String) (file : Option String) :
    Except SyntaxFault Tree :=
  (parse language text).strict file

end SiteSurvey.Script
