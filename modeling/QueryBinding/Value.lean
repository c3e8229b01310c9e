-- The values that are bound to fields, and how they are printed: plainly, as
-- text does inside a sentence, and displayed, with texts in quotes.
import QueryBinding.Number.Real
import QueryBinding.Text.Quoted

namespace QueryBinding

inductive Value where
  | none
  | bool (b : Bool)
  | int (n : Int)
  | float (x : Float)
  | decimal (d : Number.Decimal)
  | text (s : String)
  | bytes (bs : List UInt8)
  | list (items : List Value)
  | tuple (items : List Value)
  | mapping (entries : List (String × Value))
  /-- An instance of a model, with its fields in declaration order. -/
  | record (model : String) (fields : List (String × Value))
  /-- An instance of a model that wraps a single value. -/
  | rooted (model : String) (root : Value)
  deriving Inhabited

namespace Value

/-- The name of the kind of a value. -/
def kind : Value → String
  | none => "NoneType"
  | bool _ => "bool"
  | int _ => "int"
  | float _ => "float"
  | decimal _ => "Decimal"
  | text _ => "str"
  | bytes _ => "bytes"
  | list _ => "list"
  | tuple _ => "tuple"
  | mapping _ => "dict"
  | record m _ => m
  | rooted m _ => m

/-- The name of the kind with its home, as messages about missing operations give it. -/
def fullKind : Value → String
  | decimal _ => "decimal.Decimal"
  | v => v.kind

/-! ## Printing -/

def boolText (b : Bool) : String := if b then "True" else "False"

def intText (n : Int) : String := String.ofList (Number.writeInteger n)

mutual

/-- A value as it is displayed inside another. -/
def display : Value → String
  | none => "None"
  | bool b => boolText b
  | int n => intText n
  | float x => Number.realText x
  | decimal d => "Decimal('" ++ d.toText ++ "')"
  | text s => Text.quoteString s
  | bytes bs => Text.quoteBytes bs
  | list items => "[" ++ displayItems items ++ "]"
  | tuple [item] => "(" ++ display item ++ ",)"
  | tuple items => "(" ++ displayItems items ++ ")"
  | mapping entries => "\x7b" ++ displayEntries entries ++ "\x7d"
  | record m fields => m ++ "(" ++ displayFields ", " fields ++ ")"
  | rooted m root => m ++ "(root=" ++ display root ++ ")"

def displayItems : List Value → String
  | [] => ""
  | [v] => display v
  | v :: vs => display v ++ ", " ++ displayItems vs

def displayEntries : List (String × Value) → String
  | [] => ""
  | [(k, v)] => Text.quoteString k ++ ": " ++ display v
  | (k, v) :: es => Text.quoteString k ++ ": " ++ display v ++ ", " ++ displayEntries es

def displayFields (mark : String) : List (String × Value) → String
  | [] => ""
  | [(k, v)] => k ++ "=" ++ display v
  | (k, v) :: fs => k ++ "=" ++ display v ++ mark ++ displayFields mark fs

end

/-- A value as plain text. -/
def plain : Value → String
  | text s => s
  | decimal d => d.toText
  | record _ fields => displayFields " " fields
  | rooted _ root => "root=" ++ display root
  | v => display v

/-! ## Equality across kinds of numbers -/

/-- A number without regard to its kind. -/
def number? : Value → Option Number.Decimal
  | bool b => some (.ofInt (if b then 1 else 0))
  | int n => some (.ofInt n)
  | float x => some (Number.exactDecimal x)
  | decimal d => some d
  | _ => Option.none

/-- Whether a value counts as true: zero, and what is empty, do not. -/
def isTrue : Value → Bool
  | none => false
  | text s => !s.isEmpty
  | bytes bs => !bs.isEmpty
  | list items => !items.isEmpty
  | tuple items => !items.isEmpty
  | mapping entries => !entries.isEmpty
  | record .. => true
  | rooted .. => true
  | v => !v.number?.any (·.equals (.ofInt 0))

mutual

/-- Whether two values are equal: numbers by what they measure, containers part by part, entries
in any order, and instances only of the same model. -/
def same : Value → Value → Bool
  | none, none => true
  | text a, text b => a == b
  | bytes a, bytes b => a == b
  | list a, list b => sameItems a b
  | tuple a, tuple b => sameItems a b
  | mapping a, mapping b => a.length == b.length && sameEntries a b
  | record m a, record n b => m == n && a.length == b.length && sameEntries a b
  | rooted m a, rooted n b => m == n && same a b
  | a, b =>
    match a.number?, b.number? with
    | some x, some y => x.equals y
    | _, _ => false

def sameItems : List Value → List Value → Bool
  | [], [] => true
  | a :: as, b :: bs => same a b && sameItems as bs
  | _, _ => false

/-- Whether each entry has an equal one under the same key. -/
def sameEntries : List (String × Value) → List (String × Value) → Bool
  | [], _ => true
  | (k, a) :: as, bs =>
    (match bs.lookup k with
      | some b => same a b
      | Option.none => false) && sameEntries as bs

end

end Value

end QueryBinding
