-- The log: values bound for a while, events that carry them, and what is
-- written when an event passes the level. A logger keeps, from its first use
-- on, the style that was set at that time.
import QueryBinding.Settings

namespace QueryBinding.Log

inductive Level where
  | notset
  | debug
  | info
  | warning
  | error
  | critical
  deriving Repr, DecidableEq

namespace Level

def rank : Level → Nat
  | notset => 0
  | debug => 10
  | info => 20
  | warning => 30
  | error => 40
  | critical => 50

def text : Level → String
  | notset => "notset"
  | debug => "debug"
  | info => "info"
  | warning => "warning"
  | error => "error"
  | critical => "critical"

def all : List Level := [notset, debug, info, warning, error, critical]

/-- The level of a name in lower case. -/
def ofText? (s : String) : Option Level := all.find? (·.text == s)

end Level

/-- How a logger filters events and writes them. -/
structure Style where
  level : Level
  appEnv : String
  json : Bool
  deriving Repr, DecidableEq

namespace Style

def ofSettings (s : Settings) : Style :=
  ⟨(Level.ofText? (Text.lowerAscii s.logLevel)).getD .info, s.appEnv, s.logJson⟩

end Style

/-- Values under keys, in the order in which the keys came. -/
abbrev Fields := List (String × Value)

/-- What is written for one event: its fields, or a line of text behind a time stamp. -/
inductive Line where
  | fields (fields : Fields)
  | text (stamp rest : String)

structure Logger where
  id : Nat
  name : String
  deriving Repr, DecidableEq

/-! ## Events -/

/-- Adds the bound values whose keys the event does not have. -/
def mergeBound (bound : Fields) (fields : Fields) : Fields :=
  bound.foldl (fun fields (k, v) => Keyed.putNew k v fields) fields

/-- Moves the text of the event under its final key. -/
def renameEvent (fields : Fields) : Fields :=
  match fields.lookup "event" with
  | none => fields
  | some v => Keyed.put "message" v (Keyed.remove "event" fields)

/-- Whether a value asks for the exception that is being handled. A tuple does not: it would be
taken for an exception itself. -/
def asksForException : Value → Bool
  | .tuple _ => false
  | v => v.isTrue

/-- Takes out the key that asks for the exception, and tells it under a key of its own. -/
def tellException (exception : Option String) (fields : Fields) : Fields :=
  let rest := Keyed.remove "exc_info" fields
  match exception with
  | some told =>
    if (fields.lookup "exc_info").any asksForException then Keyed.put "exception" (.text told) rest
    else rest
  | none => rest

/-- All fields of an event, one stage after the other. -/
def eventFields (style : Style) (stamp : String) (exception : Option String) (logger : String)
    (level : Level) (event : String) (values bound : Fields) : Fields :=
  let fields := Keyed.put "event" (.text event) values
  let fields := mergeBound bound fields
  let fields := Keyed.put "timestamp" (.text stamp) fields
  let fields := Keyed.put "level" (.text level.text) fields
  let fields := Keyed.put "logger" (.text logger) fields
  let fields := Keyed.putNew "app_env" (.text style.appEnv) fields
  tellException exception (renameEvent fields)

/-! ## Writing -/

def needsQuotes (c : Char) : Bool :=
  c == ' ' || c == '\t' || c == '=' || c == '\r' || c == '\n' || c == '"' || c == '\''

/-- A value in a line of text: quoted only if its characters call for it. -/
def fieldText : Value → String
  | .text s => if s.any needsQuotes then Text.quoteString s else s
  | v => v.display

/-- The keys that have places of their own in a line of text. -/
def placedKeys : List String :=
  ["timestamp", "level", "event", "logger", "logger_name", "stack", "exception", "exc_info"]

def padRight (width : Nat) (s : String) : String :=
  s ++ String.ofList (List.replicate (width - s.length) ' ')

def trimSpaces (s : String) : String :=
  String.ofList (s.toList.reverse.dropWhile (· == ' ')).reverse

/-- What follows a line of text: the stack and the exception of an event, if it tells them. -/
def traceText (fields : Fields) : String :=
  let stack := ((fields.lookup "stack").map fun v => "\n" ++ v.plain).getD ""
  let exception := ((fields.lookup "exception").map fun v => "\n" ++ v.plain).getD ""
  let rule := "\n\n" ++ String.ofList (List.replicate 79 '=') ++ "\n"
  stack ++ (if stack.isEmpty || exception.isEmpty then "" else rule) ++ exception

/-- A line of text: level, logger, and the other fields by key, and then what was traced. -/
def lineText (fields : Fields) : String :=
  let bracketed (width : Nat) (key : String) : List String :=
    ((fields.lookup key).map fun v => "[" ++ padRight width v.plain ++ "]").toList
  let event := ((fields.lookup "event").map Value.plain).toList
  let others := (fields.filter fun (k, _) => !placedKeys.contains k).mergeSort fun a b => a.1 ≤ b.1
  let parts := bracketed 9 "level" ++ event ++ bracketed 0 "logger" ++ bracketed 0 "logger_name" ++
    others.map fun (k, v) => k ++ "=" ++ fieldText v
  trimSpaces (" ".intercalate (parts.filter (!·.isEmpty))) ++ traceText fields

def writeLine (style : Style) (fields : Fields) : Line :=
  if style.json then .fields fields
  else .text (((fields.lookup "timestamp").map Value.plain).getD "") (lineText fields)

/-! ## The state of the log -/

structure Journal where
  /-- The style of loggers that are used for the first time from now on. -/
  style : Style
  /-- The file that lines are written to besides the error stream. -/
  file : Option String
  configured : Bool
  /-- The styles that loggers have kept. -/
  kept : List (Nat × Style)
  /-- The number of the next new logger. -/
  next : Nat
  bound : Fields
  lines : List Line
  files : List (String × List Line)
  stamp : String
  /-- The failure that is being handled, as the text in which an event tells it. -/
  raised : Option String
  /-- How a failure is written out where it is handled. -/
  trace : Failure → String

namespace Journal

/-- The log as it is set up when it is first needed. -/
def initial (s : Settings) : Journal :=
  ⟨Style.ofSettings s, none, true, [], 3, [], [], [], "", none, fun _ => ""⟩

/-- Sets style and file anew, unless that was done before and is not forced. -/
def configure (settings : Settings) (force : Bool) (s : Journal) : Journal :=
  if s.configured && !force then s
  else
    let file := settings.logFile.filter (!·.isEmpty)
    let files := match file with
      | none => s.files
      | some path => Keyed.putNew path [] s.files
    { s with style := Style.ofSettings settings, file := file, configured := true, files := files }

/-- A new logger. -/
def logger (name : String) (s : Journal) : Logger × Journal :=
  (⟨s.next, name⟩, { s with next := s.next + 1 })

/-- The style that a logger works with. -/
def styleOf (s : Journal) (l : Logger) : Style := (s.kept.lookup l.id).getD s.style

def keep (l : Logger) (s : Journal) : Journal :=
  if (s.kept.lookup l.id).isSome then s else { s with kept := (l.id, s.style) :: s.kept }

def write (line : Line) (s : Journal) : Journal :=
  let files := match s.file with
    | none => s.files
    | some path => Keyed.put path ((s.files.lookup path).getD [] ++ [line]) s.files
  { s with lines := s.lines ++ [line], files := files }

/-- Logs an event, if it passes the level of the logger and that of the output. -/
def log (l : Logger) (level : Level) (event : String) (values : Fields) (s : Journal) : Journal :=
  let style := s.styleOf l
  let s := s.keep l
  if level.rank < style.level.rank || level.rank < s.style.level.rank then s
  else s.write (writeLine style (eventFields style s.stamp s.raised l.name level event values
    s.bound))

/-! ## Failures at hand -/

/-- While a failure is handled, events can tell it. -/
def handling (e : Failure) (s : Journal) : Journal := { s with raised := some (s.trace e) }

/-- Behind the handling, the failure at hand is the one from before. -/
def handled (before s : Journal) : Journal := { s with raised := before.raised }

/-! ## Bound values -/

/-- What a key was bound to before, so that it can be again. -/
abbrev Token := String × Option Value

def tokensFor (values : Fields) (bound : Fields) : List Token :=
  values.map fun (k, _) => (k, bound.lookup k)

def bindAll (values : Fields) (bound : Fields) : Fields :=
  values.foldl (fun bound (k, v) => Keyed.put k v bound) bound

def resetAll (tokens : List Token) (bound : Fields) : Fields :=
  tokens.foldl (fun bound (k, old) =>
    match old with
    | some v => Keyed.put k v bound
    | none => Keyed.remove k bound) bound

/-- Binds values and tells what they replace. -/
def enter (values : Fields) (s : Journal) : List Token × Journal :=
  (tokensFor values s.bound, { s with bound := bindAll values s.bound })

/-- Brings back what was bound before. -/
def leave (tokens : List Token) (s : Journal) : Journal :=
  { s with bound := resetAll tokens s.bound }

end Journal

/-! ## The loggers of this library -/

def schemaLogger : Logger := ⟨0, "scrapebind.schema_registry"⟩

def coercionLogger : Logger := ⟨1, "scrapebind.conversion"⟩

def materializeLogger : Logger := ⟨2, "scrapebind.materializer"⟩

end QueryBinding.Log
