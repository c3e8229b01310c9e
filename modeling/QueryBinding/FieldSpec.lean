-- How one field is bound: its query, its shape, its transform and its mode, in
-- a form where these fit together.
import QueryBinding.Shape

namespace QueryBinding

structure FieldSpec where
  identifier : Identifier
  mode : BindingMode
  query : Option String
  shape : Option TargetShape
  transform : Option Transform
  /-- The default that is made anew on each use. -/
  factory : Option Value
  deriving Inhabited

/-- Why the parts of a field do not fit together. -/
inductive SpecFault where
  | needsQuery (mode : BindingMode)
  | needsShape (mode : BindingMode)
  | neverOptional (kind : ShapeKind)
  | onlyOptional
  | neverQueries (mode : BindingMode)
  | needsDefault
  deriving Repr, DecidableEq

namespace SpecFault

def message : SpecFault → String
  | needsQuery mode => "Mode '" ++ Choice.text mode ++ "' requires a query"
  | needsShape mode => "Mode '" ++ Choice.text mode ++ "' requires a target shape"
  | neverOptional kind => "Shape '" ++ Choice.text kind ++ "' cannot be optional"
  | onlyOptional => "Shape 'optional_scalar' requires mode 'optional'"
  | neverQueries mode => "Mode '" ++ Choice.text mode ++ "' never queries"
  | needsDefault => "Mode 'use_default' requires a default"

end SpecFault

namespace FieldSpec

/-- Optional fields are optional scalars or single structures, and an optional scalar is an
optional field. -/
def checkOptionality (mode : BindingMode) (kind : ShapeKind) : Except SpecFault Unit :=
  if mode = .optional ∧ kind ≠ .optionalScalar ∧ kind ≠ .nestedOne then .error (.neverOptional kind)
  else if kind = .optionalScalar ∧ mode ≠ .optional then .error .onlyOptional
  else .ok ()

/-- Fields that ask a query need one and a shape for its matches; the others have neither query
nor transform. -/
def check (s : FieldSpec) : Except SpecFault FieldSpec :=
  if s.mode.queries then
    if s.query.getD "" = "" then .error (.needsQuery s.mode)
    else match s.shape with
      | none => .error (.needsShape s.mode)
      | some shape => (checkOptionality s.mode shape.kind).map fun _ => s
  else if s.query.isSome ∨ s.transform.isSome then .error (.neverQueries s.mode)
  else if s.mode = .useDefault ∧ s.factory.isNone then .error .needsDefault
  else .ok s

/-- Whether no match at all binds nothing. -/
def optional (s : FieldSpec) : Bool := s.mode == .optional

/-- The models that a field nests. -/
def target? (s : FieldSpec) : Option Target := s.shape.bind (·.target)

/-! ## Drafts -/

/-- A shape as a draft of a field gives it. -/
inductive ShapePart where
  | absent
  | shape (s : TargetShape)
  | other (v : Value)

/-- A field as it is asked for. -/
structure Draft where
  identifier : Option Value
  mode : Option Value
  query : Option Value
  shape : ShapePart
  transform : Option Transform
  factory : Option Value
  /-- Parts that no field has. -/
  extra : List String

def noModel (name : String) (_ : Value) : Validation.Checked Value :=
  Validation.reject (Validation.modelType name)

def readIdentifier : Option Value → Validation.Checked Identifier
  | none => .error [partIssue "identifier" "missing" "Field required"]
  | some v =>
    match Validation.check noModel (.union false [.text, .integer]) v with
    | .ok (.int n) => .ok (.position n)
    | .ok (.text s) => .ok (.name s)
    | .ok _ => .ok (.name "")
    | .error is => Validation.located [.name "identifier"] (.error is)

def readQuery : Option Value → Validation.Checked (Option String)
  | none => .ok none
  | some .none => .ok none
  | some v => (Validation.located [.name "query"] (Validation.checkText v)).map some

def readShape : ShapePart → Validation.Checked (Option TargetShape)
  | .absent => .ok none
  | .shape s => .ok (some s)
  | .other .none => .ok none
  | .other _ => .error [partIssue "shape" "model_type"
      "Input should be a valid dictionary or instance of TargetShape"]

def readTransform : Option Transform → Validation.Checked (Option Transform)
  | none => .ok none
  | some (.inert .none) => .ok none
  | some t =>
    if t.isCallable then .ok (some t)
    else .error [partIssue "transform" "callable_type" "Input should be callable"]

def ofDraft (d : Draft) : Validation.Checked FieldSpec :=
  let identifier := readIdentifier d.identifier
  let mode := readWord BindingMode "mode" d.mode
  let query := readQuery d.query
  let shape := readShape d.shape
  let transform := readTransform d.transform
  match identifier, mode, query, shape, transform, d.extra with
  | .ok identifier, .ok mode, .ok query, .ok shape, .ok transform, [] =>
    match check ⟨identifier, mode, query, shape, transform, d.factory⟩ with
    | .ok s => .ok s
    | .error f => .error [wholeIssue f.message]
  | i, m, q, s, t, extra =>
    .error (TargetShape.issuesOf i ++ TargetShape.issuesOf m ++ TargetShape.issuesOf q ++
      TargetShape.issuesOf s ++ TargetShape.issuesOf t ++ TargetShape.extraParts extra)

/-- A field never changes once it is there. -/
def assign (name : String) : Issue := partIssue name "frozen_instance" "Instance is frozen"

end FieldSpec

end QueryBinding
