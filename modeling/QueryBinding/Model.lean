-- Models as they are declared: fields with a type, binding directives,
-- defaults, aliases, limits and checks.
import QueryBinding.FieldType
import QueryBinding.Transform

namespace QueryBinding

/-- How a field is bound. Without a mode the field is queried. -/
structure Directive where
  query : Option String
  transform : Option Transform
  shape : Option ShapeKind
  mode : Option BindingMode
  deriving Inhabited

namespace Directive

def scrape (query : String) (transform : Option Transform) (shape : Option ShapeKind) : Directive :=
  ⟨some query, transform, shape, none⟩

def useDefault : Directive := ⟨none, none, none, some .useDefault⟩

def ignore : Directive := ⟨none, none, none, some .ignore⟩

end Directive

/-- Where a field is looked for in data: under a key, at the end of the first way that leads
somewhere, or at the end of a way into nested data. -/
inductive Alias where
  | key (name : String)
  | choices (ways : List Path)
  | way (steps : Path)
  deriving Repr, DecidableEq

namespace Alias

def displayStep : Identifier → String
  | .name s => Text.quoteString s
  | .position i => toString i

def displayWay (steps : Path) : String :=
  "AliasPath(path=[" ++ ", ".intercalate (steps.map displayStep) ++ "])"

/-- One of several ways: a single key stands for itself. -/
def displayChoice : Path → String
  | [.name s] => Text.quoteString s
  | steps => displayWay steps

def display : Alias → String
  | key name => Text.quoteString name
  | choices ways => "AliasChoices(choices=[" ++ ", ".intercalate (ways.map displayChoice) ++ "])"
  | way steps => displayWay steps

/-- The ways into data, in the order in which they are tried. -/
def ways : Alias → List Path
  | key name => [[.name name]]
  | choices ways => ways
  | way steps => [steps]

end Alias

inductive FieldRule where
  | never
  | lowercase
  | nonempty
  /-- Any other check: what it makes of a value, given the fields before its own. -/
  | custom (revise : List (String × Value) → Value → Option Value)

/-- How a rule complains. -/
structure Complaint where
  message : String
  assertion : Bool
  deriving Repr, DecidableEq

structure FieldCheck where
  rule : FieldRule
  complaint : Complaint

inductive ModelCheck where
  /-- Two fields must be equal. -/
  | equal (left right : String) (complaint : Complaint)
  /-- Data under the old key moves under the new one, or away, before it is read. -/
  | rename (old : String) (new : Option String)
  /-- Any other test of the fields together. -/
  | accepted (test : List (String × Value) → Bool) (complaint : Complaint)

structure Limits where
  minLength : Option Int
  maxLength : Option Int
  least : Option Value
  most : Option Value
  deriving Inhabited

structure FieldDecl where
  name : String
  type : FieldType
  directives : List Directive
  default : Option Value
  factory : Option Value
  aliasName : Option String
  validationAlias : Option Alias
  limits : Limits
  checks : List FieldCheck
  deriving Inhabited

namespace FieldDecl

/-- A field with a type, a directive and perhaps a default, and nothing more. -/
def bound (name : String) (type : FieldType) (d : Directive) (default : Option Value) : FieldDecl :=
  ⟨name, type, [d], default, none, none, none, ⟨none, none, none, none⟩, []⟩

/-- The declared default, made anew if there is a factory. -/
def default? (f : FieldDecl) : Option Value := f.factory.or f.default

def isRequired (f : FieldDecl) : Bool := f.default?.isNone

/-- The alias for reading: a plain alias serves if no other is declared. -/
def readingAlias? (f : FieldDecl) : Option Alias := f.validationAlias.or (f.aliasName.map .key)

end FieldDecl

structure ModelConfig where
  populateByName : Bool
  validateByName : Bool
  validateDefault : Bool
  forbidExtra : Bool
  locateByAlias : Bool
  deriving Repr, DecidableEq, Inhabited

structure Model where
  name : String
  fields : List FieldDecl
  /-- Whether the model wraps the value of its single field. -/
  wraps : Bool
  config : ModelConfig
  checks : List ModelCheck
  deriving Inhabited

namespace Model

/-- A model of fields, read as they are. -/
def plain (name : String) (fields : List FieldDecl) : Model :=
  ⟨name, fields, false, ⟨false, false, false, false, true⟩, []⟩

def readsNames (m : Model) : Bool := m.config.populateByName || m.config.validateByName

end Model

/-- The models that may refer to each other. -/
abbrev Family := List Model

namespace Family

def model? (family : Family) (name : String) : Option Model := family.find? (·.name == name)

end Family

end QueryBinding
