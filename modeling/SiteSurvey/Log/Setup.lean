import SiteSurvey.Failure
import SiteSurvey.Log.Notice
import SiteSurvey.Text.Case
import SiteSurvey.Text.Quoted

set_option autoImplicit false

namespace SiteSurvey

inductive Handler where
  | nowhere
  | file
  | console
  deriving DecidableEq, Repr, Inhabited

/-- What is set of a logger: the level that its notices must reach, or zero to leave that to the logger above, the
handlers that get them, and whether those of the logger above get them too. -/
structure Logger where
  level : Int
  handlers : List Handler
  propagates : Bool
  deriving DecidableEq, Repr

def Logger.unset : Logger :=
  { level := Level.unset.number, handlers := [], propagates := true }

/-- The logger of the survey, the one above it, and what the log file holds so far. -/
structure Log where
  root : Logger
  survey : Logger
  written : List Notice

/-- What can be done to a log. A failure ends it, but what was done before stays done. -/
abbrev Logging := ExceptT Failure (StateM Log)

namespace Log

def initial : Log where
  root := { level := Level.info.number, handlers := [.console], propagates := true }
  survey := { level := Level.warning.number, handlers := [.nowhere], propagates := false }
  written := []

def surveyName : String := "jsrecon"

def isBelow (name : String) : Bool :=
  (surveyName.toList ++ ['.']).isPrefixOf name.toList

/-- The loggers that a notice comes by, from its own upwards. Nothing is ever set of those below the logger of the
survey. -/
def wayUp (log : Log) (name : String) : List Logger :=
  if name = surveyName then [log.survey, log.root]
  else if isBelow name then [.unset, log.survey, log.root]
  else [log.root]

def effectiveLevel : List Logger → Int
  | [] => Level.unset.number
  | l :: above => if l.level = 0 then effectiveLevel above else l.level

def handlersOn : List Logger → List Handler
  | [] => []
  | l :: above => l.handlers ++ if l.propagates then handlersOn above else []

/-- The level of a name, in letters of any size. Two other names are those of things that are no levels. -/
def levelOf (name : String) : Except Failure Level :=
  let upper := (Text.upper (Text.ofString name)).toString
  match Level.ofName? upper with
  | some l => .ok l
  | none =>
      if upper = "BASIC_FORMAT" then .error (.badValue "Unknown level: '%(levelname)s:%(name)s:%(message)s'")
      else if upper = "_STYLES" then
        .error (.badType ("Level not an integer or a valid string: " ++
          "\x7b'%': (<class 'logging.PercentStyle'>, '%(levelname)s:%(name)s:%(message)s'), " ++
          "'\x7b': (<class 'logging.StrFormatStyle'>, '\x7blevelname\x7d:\x7bname\x7d:\x7bmessage\x7d'), " ++
          "'$': (<class 'logging.StringTemplateStyle'>, '$\x7blevelname\x7d:$\x7bname\x7d:$\x7bmessage\x7d')\x7d"))
      else .error (.noMember ("module 'logging' has no attribute '" ++ upper ++ "'"))

def setSurvey (f : Logger → Logger) : Logging Unit :=
  modify fun log => { log with survey := f log.survey }

def attach (h : Handler) : Logging Unit :=
  setSurvey fun l => { l with handlers := l.handlers ++ [h] }

structure Setup where
  toFile : Bool := false
  level : String := "INFO"
  toConsole : Bool := true
  deriving DecidableEq, Repr

/-- Sets up the logger of the survey anew. What the log file holds already stays there. -/
def configure (s : Setup) : Logging Unit := do
  match levelOf s.level with
  | .ok level => setSurvey fun l => { l with level := level.number }
  | .error f => throw f
  setSurvey fun l => { l with propagates := false }
  setSurvey fun l => { l with handlers := [] }
  if s.toFile then attach .file
  if s.toConsole then attach .console

/-- A notice is grave enough. What is not above zero never is. -/
def accepts (log : Log) (n : Notice) : Bool :=
  0 < n.level.number && effectiveLevel (log.wayUp n.logger) ≤ n.level.number

/-- Names that no field can have, since each notice has them already. -/
def reservedNames : List String :=
  ["message", "asctime", "name", "msg", "args", "levelname", "levelno", "pathname", "filename", "module",
   "exc_info", "exc_text", "stack_info", "lineno", "funcName", "created", "msecs", "relativeCreated",
   "thread", "threadName", "processName", "process"]

def reserved (key : Text) : Bool :=
  reservedNames.any fun name => key == Text.ofString name

def emit (n : Notice) (log : Log) : Handler → Log
  | .file => { log with written := log.written ++ [n] }
  | .console | .nowhere => log

/-- Takes a notice, if it is grave enough. -/
def record (n : Notice) : Logging Unit := do
  let log ← get
  if log.accepts n then
    match n.fields.find? fun f => reserved f.1 with
    | some (key, _) =>
        throw (.badKey (Text.quoted (Text.ofString "Attempt to overwrite " ++ key.quoted ++ " in LogRecord")))
    | none => set ((handlersOn (log.wayUp n.logger)).foldl (emit n) log)

end Log

end SiteSurvey
