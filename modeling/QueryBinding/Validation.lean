-- Validation: whether a value is of a declared type, made into that type where
-- that loses nothing. All complaints about the fields of a structure are
-- collected, in declaration order. What is already of its type stays as it is.
import QueryBinding.Model

namespace QueryBinding

namespace Validation

/-! ## Complaints -/

def issue (kind message : String) : Issue := ⟨[], kind, message⟩

def Issue.under (at_ : Path) (i : Issue) : Issue := { i with path := at_ ++ i.path }

def required : Issue := issue "missing" "Field required"

def stringType : Issue := issue "string_type" "Input should be a valid string"

def integerType : Issue := issue "int_type" "Input should be a valid integer"

def integerParsing : Issue :=
  issue "int_parsing" "Input should be a valid integer, unable to parse string as an integer"

def integerSize : Issue :=
  issue "int_parsing_size" "Unable to parse input string as an integer, exceeded maximum size"

def integerFraction : Issue :=
  issue "int_from_float" "Input should be a valid integer, got a number with a fractional part"

def finiteNumber : Issue := issue "finite_number" "Input should be a finite number"

def booleanType : Issue := issue "bool_type" "Input should be a valid boolean"

def booleanParsing : Issue :=
  issue "bool_parsing" "Input should be a valid boolean, unable to interpret input"

def realType : Issue := issue "float_type" "Input should be a valid number"

def realParsing : Issue :=
  issue "float_parsing" "Input should be a valid number, unable to parse string as a number"

def decimalType : Issue :=
  issue "decimal_type" "Decimal input should be an integer, float, string or Decimal object"

def decimalParsing : Issue := issue "decimal_parsing" "Input should be a valid decimal"

def bytesType : Issue := issue "bytes_type" "Input should be a valid bytes"

def listType : Issue := issue "list_type" "Input should be a valid list"

def tupleType : Issue := issue "tuple_type" "Input should be a valid tuple"

def mappingType : Issue := issue "dict_type" "Input should be a valid dictionary"

def nothingRequired : Issue := issue "none_required" "Input should be None"

def modelType (name : String) : Issue :=
  issue "model_type" ("Input should be a valid dictionary or instance of " ++ name)

def extraForbidden : Issue := issue "extra_forbidden" "Extra inputs are not permitted"

def complained (c : Complaint) : Issue :=
  if c.assertion then issue "assertion_error" ("Assertion failed, " ++ c.message)
  else issue "value_error" ("Value error, " ++ c.message)

def endless : Issue := issue "recursion_loop" "Recursion error - cyclic reference detected"

/-- A result of validation, or what is wrong. -/
abbrev Checked (α : Type) := Except (List Issue) α

def reject {α : Type} (i : Issue) : Checked α := .error [i]

/-- Complaints located further out. -/
def located {α : Type} (at_ : Path) : Checked α → Checked α
  | .ok a => .ok a
  | .error is => .error (is.map (Issue.under at_))

/-- All results, or all complaints. -/
def collect {α : Type} : List (Checked α) → Checked (List α)
  | [] => .ok []
  | r :: rs =>
    match r, collect rs with
    | .ok a, .ok as => .ok (a :: as)
    | .ok _, .error is => .error is
    | .error is, .ok _ => .error is
    | .error is, .error js => .error (is ++ js)

/-! ## Single values -/

/-- An integer text without a fraction of zeros. -/
def dropZeroFraction (cs : List Char) : List Char :=
  match Url.cut (· == '.') cs with
  | (whole, some fraction) => if fraction.all (· == '0') then whole else cs
  | (_, none) => cs

def integerOfText (cs : List Char) : Checked Int :=
  let body := dropZeroFraction (Number.trimPadding cs)
  if body.all (·.toNat < 128) then
    match Number.readInteger body with
    | .ok n => if body == Number.trimPadding body then .ok n else reject integerParsing
    | .error .malformed => reject integerParsing
    | .error (.tooLong _) => reject integerSize
  else reject integerParsing

/-- A whole number that a floating-point number or a decimal holds. -/
def integerOfDecimal (d : Number.Decimal) : Checked Int :=
  if !d.isFinite then reject finiteNumber
  else if !d.isWhole then reject integerFraction
  else match d.truncate? with
    | some n => .ok n
    | none => reject integerFraction

def asciiText (bs : List UInt8) : List Char := bs.map fun b => Char.ofNat b.toNat

def checkInteger : Value → Checked Int
  | .int n => .ok n
  | .bool b => .ok (if b then 1 else 0)
  | .text s => integerOfText s.toList
  | .bytes bs => integerOfText (asciiText bs)
  | .float x => do
    let n ← integerOfDecimal (Number.exactDecimal x)
    if -9223372036854775808 ≤ n ∧ n < 9223372036854775808 then .ok n else reject integerSize
  | .decimal d => integerOfDecimal d
  | _ => reject integerType

def trueWords : List String := ["1", "on", "t", "true", "y", "yes"]

def falseWords : List String := ["0", "off", "f", "false", "n", "no"]

def booleanOfText (s : String) : Checked Bool :=
  let word := Text.lowerAscii s
  if trueWords.contains word then .ok true
  else if falseWords.contains word then .ok false
  else reject booleanParsing

def booleanOfDecimal (d : Number.Decimal) : Checked Bool :=
  if d.equals (.ofInt 0) then .ok false
  else if d.equals (.ofInt 1) then .ok true
  else if d.isWhole then reject booleanParsing
  else reject booleanType

def checkBoolean : Value → Checked Bool
  | .bool b => .ok b
  | .text s => booleanOfText s
  | .int n =>
    if n = 0 then .ok false
    else if n = 1 then .ok true
    else if -9223372036854775808 ≤ n ∧ n < 9223372036854775808 then reject booleanParsing
    else reject booleanType
  | .float x => booleanOfDecimal (Number.exactDecimal x)
  | .decimal d => booleanOfDecimal d
  | _ => reject booleanType

def checkReal : Value → Checked Float
  | .float x => .ok x
  | .int n => .ok (Number.realOfDecimal (.ofInt n))
  | .bool b => .ok (if b then 1.0 else 0.0)
  | .decimal d => .ok (Number.realOfDecimal d)
  | .text s =>
    match Number.Decimal.read? s.toList with
    | some (.undefined _ true _) => reject realParsing
    | some d => .ok (Number.realOfDecimal d)
    | none => reject realParsing
  | _ => reject realType

def finiteDecimal (d : Number.Decimal) : Checked Number.Decimal :=
  if d.isFinite then .ok d else reject finiteNumber

def checkDecimal : Value → Checked Number.Decimal
  | .decimal d => finiteDecimal d
  | .int n => .ok (.ofInt n)
  | .float x =>
    match Number.Decimal.read? (Number.writeReal x) with
    | some d => finiteDecimal d
    | none => reject decimalParsing
  | .text s =>
    match Number.Decimal.read? s.toList with
    | some d => finiteDecimal d
    | none => reject decimalParsing
  | _ => reject decimalType

def checkText : Value → Checked String
  | .text s => .ok s
  | .bytes bs =>
    match String.fromUTF8? ⟨bs.toArray⟩ with
    | some s => .ok s
    | none => reject (issue "string_unicode"
        "Input should be a valid string, unable to parse raw data as a unicode string")
  | _ => reject stringType

def checkBytes : Value → Checked (List UInt8)
  | .bytes bs => .ok bs
  | .text s => .ok s.toUTF8.toList
  | _ => reject bytesType

/-- The items of a value that can be gone through: an instance gives its fields by name. -/
def itemsOf? : Value → Option (List Value)
  | .list items => some items
  | .tuple items => some items
  | .record _ fields => some (fields.map fun (k, v) => .tuple [.text k, v])
  | .rooted _ root => some [.tuple [.text "root", root]]
  | _ => none

/-! ## Declared types -/

/-- Whether a value is of a type just as it is, which decides among the members of a union. -/
def isExact : FieldType → Value → Bool
  | .text, .text _ => true
  | .integer, .int _ => true
  | .real, .float _ => true
  | .boolean, .bool _ => true
  | .bytes, .bytes _ => true
  | .decimal, .decimal _ => true
  | .anything, _ => true
  | .nothing, .none => true
  | .bareList, .list _ => true
  | .bareMapping, .mapping _ => true
  | .list item, .list vs => vs.attach.all fun v => isExact item v.1
  | .tuple item, .tuple vs => vs.attach.all fun v => isExact item v.1
  | .mapping item, .mapping es => es.attach.all fun e => isExact item e.1.2
  | .model m, .record n _ => m == n
  | .model m, .rooted n _ => m == n
  | _, _ => false

mutual

/-- Makes a value into a declared type. What is to become an instance of a model, and is none yet,
is built by `build`. -/
def check (build : String → Value → Checked Value) : FieldType → Value → Checked Value
  | .text, v => (checkText v).map .text
  | .integer, v => (checkInteger v).map .int
  | .real, v => (checkReal v).map .float
  | .boolean, v => (checkBoolean v).map .bool
  | .bytes, v => (checkBytes v).map .bytes
  | .decimal, v => (checkDecimal v).map .decimal
  | .anything, v => .ok v
  | .nothing, v =>
    match v with
    | .none => .ok .none
    | _ => reject nothingRequired
  | .bareList, v =>
    match itemsOf? v with
    | some items => .ok (.list items)
    | none => reject listType
  | .bareMapping, v =>
    match v with
    | .mapping es => .ok (.mapping es)
    | _ => reject mappingType
  | .list item, v =>
    match itemsOf? v with
    | some items => (collect (items.zipIdx.map fun (x, i) =>
        located [.position i] (check build item x))).map .list
    | none => reject listType
  | .tuple item, v =>
    match itemsOf? v with
    | some items => (collect (items.zipIdx.map fun (x, i) =>
        located [.position i] (check build item x))).map .tuple
    | none => reject tupleType
  | .mapping item, v =>
    match v with
    | .mapping es => (collect (es.map fun (k, x) =>
        (located [.name k] (check build item x)).map fun y => (k, y))).map .mapping
    | _ => reject mappingType
  | .model name, v =>
    match v with
    | .record m fields =>
      if m == name then .ok (.record m fields) else build name (.record m fields)
    | .rooted m root => if m == name then .ok (.rooted m root) else build name (.rooted m root)
    | w => build name w
  | .union _ members, v =>
    match v with
    | .none => if members.any FieldType.isNothing then .ok .none else checkMembers build members v
    | w => checkMembers build members w

/-- The first member that a value fits exactly, or else the first that it can be made into. -/
def checkMembers (build : String → Value → Checked Value) (members : List FieldType) (v : Value) :
    Checked Value :=
  match checkExact build members v with
  | some w => .ok w
  | none => checkAny build (1 < (members.filter (!·.isNothing)).length) members v

def checkExact (build : String → Value → Checked Value) : List FieldType → Value → Option Value
  | [], _ => none
  | a :: as, v =>
    if isExact a v then
      match check build a v with
      | .ok w => some w
      | .error _ => checkExact build as v
    else checkExact build as v

def checkAny (build : String → Value → Checked Value) (tagged : Bool) :
    List FieldType → Value → Checked Value
  | [], _ => .error []
  | .nothing :: as, v => checkAny build tagged as v
  | a :: as, v =>
    match located (if tagged then [.name a.shortName] else []) (check build a v) with
    | .ok w => .ok w
    | .error is =>
      match checkAny build tagged as v with
      | .ok w => .ok w
      | .error js => .error (is ++ js)

end

end Validation

end QueryBinding
