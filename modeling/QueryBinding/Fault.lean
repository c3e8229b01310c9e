-- What can go wrong in an operation on plain values, and how it is told.
import QueryBinding.Choice
import QueryBinding.Identifier
import QueryBinding.Url
import QueryBinding.Value

namespace QueryBinding

inductive Fault where
  /-- The displayed value is no integer. -/
  | malformedInteger (shown : String)
  | longInteger (digits : Nat)
  | undefinedInteger (kind : String)
  | infiniteInteger (shown : String)
  | malformedDecimal (text : String)
  | relativeBase (base : String)
  | malformedUrl (fault : UrlFault)
  | unknownWord (title word : String) (options : List String)
  /-- A value has no such operation. -/
  | lacking (kind operation : String)
  /-- An operation on text was given something else. -/
  | textOnly (operation kind : String)
  | noLength (kind : String)
  | notNumeric (kind : String)
  | notCallable (kind : String)
  /-- Bytes were used together with text. -/
  | mixedWithBytes (message : String)
  /-- A value that changes cannot be looked up. -/
  | unhashable (kind : String)
  /-- The program that runs inside a transform or a query has stopped. -/
  | raised (message : String)
  | unknownField (identifier : Identifier)
  | shapeless (identifier : Identifier)
  | notIgnored (model : String) (fields : List String)
  | emptyMarkup
  | malformedMarkup
  /-- A text declares how its bytes are written, but has none. -/
  | encodedText
  /-- A part of a page, displayed, without a body. -/
  | bodiless (shown : String)
  | malformedBytes (message : String)
  deriving Repr, DecidableEq

namespace Fault

def unknown (α : Type) [Choice α] (word : String) : Fault :=
  .unknownWord (Choice.title α) word (Choice.options (α := α))

def message : Fault → String
  | malformedInteger shown =>
    "invalid literal for int() with base 10: " ++ String.ofList (shown.toList.take 200)
  | longInteger digits =>
    "Exceeds the limit (" ++ toString Number.digitLimit ++
      " digits) for integer string conversion: value has " ++ toString digits ++
      " digits; use sys.set_int_max_str_digits() to increase the limit"
  | undefinedInteger kind => "cannot convert " ++ kind ++ "NaN to integer"
  | infiniteInteger shown => "cannot convert " ++ shown ++ " to integer"
  | malformedDecimal text => "Not a decimal number: '" ++ text ++ "'"
  | relativeBase base => "Base URL must be absolute, got '" ++ base ++ "'"
  | malformedUrl fault => fault.message
  | unknownWord title word options =>
    "Unsupported " ++ title ++ " value '" ++ word ++ "'. Expected one of: " ++
      ", ".intercalate options
  | lacking kind operation => "'" ++ kind ++ "' object has no attribute '" ++ operation ++ "'"
  | textOnly operation kind =>
    "descriptor '" ++ operation ++ "' for 'str' objects doesn't apply to a '" ++ kind ++ "' object"
  | noLength kind => "object of type '" ++ kind ++ "' has no len()"
  | notNumeric kind =>
    "int() argument must be a string, a bytes-like object or a real number, not '" ++ kind ++ "'"
  | notCallable kind => "'" ++ kind ++ "' object is not callable"
  | mixedWithBytes message => message
  | unhashable kind => "unhashable type: '" ++ kind ++ "'"
  | raised message => message
  | unknownField identifier =>
    match identifier with
    | .name s => Text.quoteString s
    | .position i => toString i
  | shapeless identifier => "Field '" ++ identifier.text ++ "' has no target shape"
  | notIgnored model fields =>
    "Cannot preset fields of '" ++ model ++ "' that are not ignored: " ++ ", ".intercalate fields
  | emptyMarkup => "Document is empty"
  | malformedMarkup => "malformed markup"
  | encodedText =>
    "Unicode strings with encoding declaration are not supported. " ++
      "Please use bytes input or XML fragments without declaration."
  | bodiless shown => "too many bodies: [] in " ++ shown
  | malformedBytes message => message

end Fault

/-- Reads a word of a closed set. -/
def Choice.read {α : Type} [Choice α] (word : String) : Except Fault α :=
  match Choice.ofText? word with
  | some a => .ok a
  | none => .error (Fault.unknown α word)

end QueryBinding
