-- Settings: given values come before the environment, and the environment
-- before a file of variables. Names of variables ignore case. Complaints name
-- the key under which a value was found.
import QueryBinding.Settings.DotEnv
import QueryBinding.Shape
import QueryBinding.Text.Utf8

namespace QueryBinding

structure Settings where
  projectName : String
  appEnv : String
  logLevel : String
  logJson : Bool
  logFile : Option String
  policy : StringListPolicy
  deriving Repr, DecidableEq

namespace Settings

def standard : Settings := ⟨"scrapebind", "dev", "INFO", true, none, .error⟩

/-- What is said when the settings of the whole program cannot be had. -/
def failed : String := "Failed to load settings"

def logLevels : List String := ["CRITICAL", "ERROR", "WARNING", "INFO", "DEBUG", "NOTSET"]

/-- Where settings are taken from. -/
structure Sources where
  given : List (String × Value)
  environment : List (String × String)
  file : Option (List UInt8)

/-! ## Looking for a value -/

/-- Variables with their names in lower case; the last of equal names counts. -/
abbrev Variables := List (String × String)

def lowerNames (vars : List (String × Option String)) : Variables :=
  vars.foldl (fun found (k, v) =>
    match v with
    | some s => Keyed.put (Text.lowerString k) s found
    | none => Keyed.remove (Text.lowerString k) found) []

/-- The variables of the file, which must be UTF-8. -/
def fileVariables (s : Sources) : Except Fault (List (String × Option String)) :=
  match s.file with
  | none => .ok []
  | some bytes =>
    match Text.decodeUtf8 bytes with
    | .ok cs => .ok (DotEnv.load s.environment cs)
    | .error f => .error (.malformedBytes f.message)

structure Lookup where
  given : List (String × Value)
  environment : Variables
  file : Variables

/-- The value of a setting with the key it was found under. Among given values the label is looked
for before the name. -/
def Lookup.find? (l : Lookup) (label name : String) : Option (String × Value) :=
  let given (key : String) := (l.given.lookup key).map fun v => (key, v)
  let from_ (vars : Variables) :=
    (vars.lookup (Text.lowerString label)).map fun s => (label, Value.text s)
  (given label).or ((given name).or ((from_ l.environment).or (from_ l.file)))

/-- Reads one setting, or takes its default. -/
def Lookup.read {α : Type} (l : Lookup) (label name : String) (default : α)
    (check : Value → Validation.Checked α) : Validation.Checked α :=
  match l.find? label name with
  | none => .ok default
  | some (key, v) => Validation.located [.name key] (check v)

/-! ## Checks of single settings -/

def ruleIssue (message : String) : Issue := Validation.complained ⟨message, false⟩

def checkLevel (v : Value) : Validation.Checked String := do
  let s ← Validation.checkText v
  let level := Text.upperString (Text.stripString s)
  if logLevels.contains level then .ok level
  else Validation.reject (ruleIssue ("Unsupported log level '" ++ s ++ "'"))

def checkOptionalText : Value → Validation.Checked (Option String)
  | .none => .ok none
  | v => (Validation.checkText v).map some

def checkPolicy : Value → Validation.Checked StringListPolicy
  | .text s =>
    match (Choice.read s : Except Fault StringListPolicy) with
    | .ok p => .ok p
    | .error f => Validation.reject (ruleIssue f.message)
  | _ => Validation.reject (Validation.issue "enum"
      ("Input should be " ++ expectedWords (Choice.options (α := StringListPolicy))))

/-! ## Loading -/

/-- All settings, or all complaints in declaration order. -/
def ofLookup (l : Lookup) : Validation.Checked Settings :=
  let project := l.read "project_name" "project_name" standard.projectName Validation.checkText
  let env := l.read "APP_ENV" "app_env" standard.appEnv Validation.checkText
  let level := l.read "LOG_LEVEL" "log_level" standard.logLevel checkLevel
  let json := l.read "LOG_JSON" "log_json" standard.logJson Validation.checkBoolean
  let file := l.read "LOG_FILE" "log_file" standard.logFile checkOptionalText
  let policy := l.read "STRING_LIST_POLICY" "string_list_policy" standard.policy checkPolicy
  match project, env, level, json, file, policy with
  | .ok project, .ok env, .ok level, .ok json, .ok file, .ok policy =>
    .ok ⟨project, env, level, json, file, policy⟩
  | a, b, c, d, e, f =>
    .error (TargetShape.issuesOf a ++ TargetShape.issuesOf b ++ TargetShape.issuesOf c ++
      TargetShape.issuesOf d ++ TargetShape.issuesOf e ++ TargetShape.issuesOf f)

/-- Why settings cannot be had, or the settings. -/
def resolve (s : Sources) : Except SettingsCause Settings :=
  match fileVariables s with
  | .error f => .error (.fault f)
  | .ok file =>
    let environment := lowerNames (s.environment.map fun (k, v) => (k, some v))
    match ofLookup ⟨s.given, environment, lowerNames file⟩ with
    | .ok settings => .ok settings
    | .error issues => .error (.invalid issues)

def load (s : Sources) : Except Failure Settings :=
  match resolve s with
  | .ok settings => .ok settings
  | .error (.invalid issues) => .error (.invalid issues)
  | .error (.fault f) => .error (.fault f)

/-- The settings of the whole program: given values play no part. -/
def shared (s : Sources) : Except Failure Settings :=
  match resolve { s with given := [] } with
  | .ok settings => .ok settings
  | .error cause => .error (.settings failed (some cause))

end Settings

end QueryBinding
