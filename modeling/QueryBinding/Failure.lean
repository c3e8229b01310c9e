-- Failures: of a field, of the declaration of a model, of settings, of
-- validation. A failure of a field learns its path on the way out, one field
-- at a time; every other failure passes unchanged.
import QueryBinding.Fault

namespace QueryBinding

/-- One complaint of validation. -/
structure Issue where
  path : Path
  kind : String
  message : String
  deriving Repr, DecidableEq

/-- Why a match that is there cannot be made into the declared shape. -/
inductive ConversionCause where
  | unreadable (reason : String)
  | notText (kind shown : String)
  | notNode (kind shown : String)
  | transform (name reason : String)
  | validation (reason : String)
  | stated (message : String)
  deriving Repr, DecidableEq

namespace ConversionCause

def message : ConversionCause → String
  | unreadable reason => "Cannot read node value: " ++ reason
  | notText kind shown => "Cannot convert " ++ kind ++ " result " ++ shown ++ " to a string"
  | notNode kind shown => "Nested structures need a node match, got " ++ kind ++ " " ++ shown
  | transform name reason => "Transform '" ++ name ++ "' failed: " ++ reason
  | validation reason => "Validation failed: " ++ reason
  | stated message => message

end ConversionCause

/-- A failure that belongs to a single field. -/
inductive FieldFailure where
  /-- The query could not be carried out; none is named when a node was read. -/
  | query (query : Option String) (reason : String)
  | conversion (cause : ConversionCause)
  | missing (query : String)
  deriving Repr, DecidableEq

namespace FieldFailure

/-- The name under which a failure is reported in a log. -/
def title : FieldFailure → String
  | query .. => "QueryError"
  | conversion _ => "ConversionError"
  | missing _ => "MissingError"

def message : FieldFailure → String
  | query none reason => reason
  | query (some q) reason => reason ++ " (query: " ++ Text.quoteString q ++ ")"
  | conversion cause => cause.message
  | missing q => "No match for required query " ++ Text.quoteString q

end FieldFailure

/-- Why the declaration of a field or a model is refused. -/
inductive SchemaCause where
  | notModel
  | noDirective
  | severalDirectives
  | needsDefault (mode : BindingMode)
  | aliased (shown : String)
  | optionalList
  | unboundItems (shown : String)
  | unbound (shown : String)
  | notNested (kind : ShapeKind) (shown : String)
  | spec (reasons : List String)
  | stated (message : String)
  deriving Repr, DecidableEq

namespace SchemaCause

def message : SchemaCause → String
  | notModel => "target must be a pydantic BaseModel subclass"
  | noDirective => "field has no binding directive; use scrape(), use_default() or ignore()"
  | severalDirectives => "field has several binding directives"
  | needsDefault mode =>
    "Mode '" ++ Choice.text mode ++ "' requires the field to declare a default"
  | aliased shown =>
    "Field is aliased as " ++ shown ++ "; bound values are passed by name, enable validate_by_name"
  | optionalList => "Optional lists are not supported, zero matches already bind to []"
  | unboundItems shown => "Cannot bind list items of type " ++ shown ++ " without a transform"
  | unbound shown => "Cannot bind type " ++ shown ++ " without a transform"
  | notNested kind shown =>
    "Shape '" ++ Choice.text kind ++ "' requires a pydantic model type, got " ++ shown
  | spec reasons => "; ".intercalate reasons
  | stated message => message

end SchemaCause

/-- A declaration that is refused, with the field at fault if it is one. -/
structure SchemaFailure where
  target : String
  cause : SchemaCause
  field : Option Identifier
  deriving Repr, DecidableEq

namespace SchemaFailure

def message (f : SchemaFailure) : String :=
  match f.field with
  | none => "Invalid schema for '" ++ f.target ++ "': " ++ f.cause.message
  | some i => "Invalid schema for '" ++ f.target ++ "." ++ i.text ++ "': " ++ f.cause.message

end SchemaFailure

/-- Why settings could not be loaded. -/
inductive SettingsCause where
  | invalid (issues : List Issue)
  | fault (fault : Fault)
  deriving Repr, DecidableEq

inductive Failure where
  /-- A field failed, at the end of a path from the outermost structure. -/
  | extraction (path : Path) (cause : FieldFailure)
  | field (cause : FieldFailure)
  | schema (cause : SchemaFailure)
  | settings (message : String) (cause : Option SettingsCause)
  | invalid (issues : List Issue)
  | fault (cause : Fault)
  /-- Structures nest without end. -/
  | endless
  deriving Repr, DecidableEq

namespace Failure

def pathText (path : Path) : String :=
  if path.isEmpty then "<structure>" else " -> ".intercalate (path.map Identifier.text)

def message : Failure → String
  | extraction path cause => pathText path ++ ": " ++ cause.message
  | field cause => cause.message
  | schema cause => cause.message
  | settings text (some (.fault cause)) => text ++ ": " ++ cause.message
  | settings text _ => text
  | invalid _ => ""
  | fault cause => cause.message
  | endless => "structures nest without end"

/-- A failure as it leaves the binding of a field. -/
def within (identifier : Identifier) : Failure → Failure
  | extraction path cause => extraction (identifier :: path) cause
  | field cause => extraction [identifier] cause
  | f => f

/-- A failure as it leaves several fields, the outermost first. -/
def withinAll (identifiers : List Identifier) (f : Failure) : Failure :=
  identifiers.foldr within f

def isField : Failure → Bool
  | field _ => true
  | _ => false

/-! ## The laws -/

/-- A failure that belongs to no field passes unchanged. -/
theorem eq_schema_of_within {i : Identifier} {f : Failure} {cause : SchemaFailure}
    (h : within i f = schema cause) : f = schema cause := by
  cases f <;> first | exact h | cases h

theorem eq_endless_of_within {i : Identifier} {f : Failure} (h : within i f = endless) :
    f = endless := by
  cases f <;> first | exact h | cases h

end Failure

end QueryBinding
