-- What the matches of a field are made into, and, for nested structures, of
-- which model. Nested shapes, and only those, have a target.
import QueryBinding.Instance

namespace QueryBinding

structure TargetShape where
  kind : ShapeKind
  target : Option Target
  deriving Inhabited

/-- Why a kind and a target do not go together. -/
inductive ShapeFault where
  | needsTarget (kind : ShapeKind)
  | takesNoTarget (kind : ShapeKind)
  deriving Repr, DecidableEq

namespace ShapeFault

def message : ShapeFault → String
  | needsTarget kind => "Shape '" ++ Choice.text kind ++ "' requires a target type"
  | takesNoTarget kind => "Shape '" ++ Choice.text kind ++ "' does not take a target type"

end ShapeFault

/-- A complaint about a structure as a whole. -/
def wholeIssue (message : String) : Issue :=
  Validation.complained ⟨message, false⟩

/-- A complaint about one named part. -/
def partIssue (part kind message : String) : Issue := ⟨[.name part], kind, message⟩

/-- The words of a closed set as a complaint lists them. -/
def expectedWords (options : List String) : String :=
  let quoted := options.map fun o => "'" ++ o ++ "'"
  match quoted.getLast? with
  | none => ""
  | some last =>
    if quoted.length < 2 then last else ", ".intercalate quoted.dropLast ++ " or " ++ last

/-- Reads a word of a closed set from a part of a draft. -/
def readWord (α : Type) [Choice α] (part : String) : Option Value → Validation.Checked α
  | none => .error [partIssue part "missing" "Field required"]
  | some v =>
    let word : Option α := match v with
      | .text s => Choice.exactly? s
      | _ => none
    match word with
    | some a => .ok a
    | none => .error [partIssue part "enum"
        ("Input should be " ++ expectedWords (Choice.options (α := α)))]

namespace TargetShape

def check (s : TargetShape) : Except ShapeFault TargetShape :=
  if s.kind.nested && s.target.isNone then .error (.needsTarget s.kind)
  else if !s.kind.nested && s.target.isSome then .error (.takesNoTarget s.kind)
  else .ok s

/-- A shape as it is displayed. -/
def text (s : TargetShape) : String :=
  match s.target with
  | none => Choice.text s.kind
  | some t => Choice.text s.kind ++ "<" ++ t.title ++ ">"

/-- A shape as it is asked for. -/
structure Draft where
  kind : Option Value
  target : Option Target
  /-- Parts that no shape has. -/
  extra : List String

def readTarget : Option Target → Validation.Checked (Option Target)
  | none => .ok none
  | some (.value .none) => .ok none
  | some (.value _) => .error [partIssue "target" "is_type" "Input should be a type"]
  | some t => .ok (some t)

def extraParts (names : List String) : List Issue :=
  names.map fun n => partIssue n "extra_forbidden" "Extra inputs are not permitted"

/-- The complaints of a check that stands beside others. -/
def issuesOf {α : Type} : Validation.Checked α → List Issue
  | .ok _ => []
  | .error is => is

def ofDraft (d : Draft) : Validation.Checked TargetShape :=
  match readWord ShapeKind "kind" d.kind, readTarget d.target, d.extra with
  | .ok kind, .ok target, [] =>
    match check ⟨kind, target⟩ with
    | .ok s => .ok s
    | .error f => .error [wholeIssue f.message]
  | k, t, extra => .error (issuesOf k ++ issuesOf t ++ extraParts extra)

end TargetShape

end QueryBinding
