-- The closed sets of words that directives and settings are written with.
import QueryBinding.Text.Blank
import QueryBinding.Text.Case

namespace QueryBinding

/-- How a field obtains its value. -/
inductive BindingMode where
  | required
  | optional
  | useDefault
  | ignore
  deriving Repr, DecidableEq, Inhabited

/-- What the matches of a field are made into. -/
inductive ShapeKind where
  | scalar
  | optionalScalar
  | stringList
  | nestedOne
  | nestedList
  deriving Repr, DecidableEq, Inhabited

/-- What a query has found. -/
inductive MatchKind where
  | node
  | string
  | other
  deriving Repr, DecidableEq, Inhabited

/-- What a list of strings does with matches that have no text. -/
inductive StringListPolicy where
  | error
  | drop
  deriving Repr, DecidableEq, Inhabited

/-- A closed set of words. -/
class Choice (α : Type) where
  title : String
  all : List α
  text : α → String

namespace Choice

variable {α : Type} [Choice α]

def options : List String := (all : List α).map text

/-- The member that is written with exactly this word. -/
def exactly? (word : String) : Option α := all.find? fun a => text a == word

/-- The member that a word names, blanks around it and its case left aside. -/
def ofText? (word : String) : Option α := exactly? (Text.lowerString (Text.stripString word))

end Choice

/-! ## The words -/

instance : Choice BindingMode where
  title := "BindingMode"
  all := [.required, .optional, .useDefault, .ignore]
  text
    | .required => "required"
    | .optional => "optional"
    | .useDefault => "use_default"
    | .ignore => "ignore"

instance : Choice ShapeKind where
  title := "ShapeKind"
  all := [.scalar, .optionalScalar, .stringList, .nestedOne, .nestedList]
  text
    | .scalar => "scalar"
    | .optionalScalar => "optional_scalar"
    | .stringList => "string_list"
    | .nestedOne => "nested_one"
    | .nestedList => "nested_list"

instance : Choice MatchKind where
  title := "MatchKind"
  all := [.node, .string, .other]
  text
    | .node => "node"
    | .string => "string"
    | .other => "other"

instance : Choice StringListPolicy where
  title := "StringListPolicy"
  all := [.error, .drop]
  text
    | .error => "error"
    | .drop => "drop"

/-! ## What the words mean -/

/-- Whether fields in this mode ask a query. -/
def BindingMode.queries : BindingMode → Bool
  | .required | .optional => true
  | .useDefault | .ignore => false

/-- Whether the shape holds structures of another model. -/
def ShapeKind.nested : ShapeKind → Bool
  | .nestedOne | .nestedList => true
  | .scalar | .optionalScalar | .stringList => false

end QueryBinding
