-- The declared types of fields, and how they are displayed in messages.
import QueryBinding.Value

namespace QueryBinding

inductive FieldType where
  | text
  | integer
  | real
  | boolean
  | bytes
  | decimal
  | anything
  | nothing
  | bareList
  | bareMapping
  | list (item : FieldType)
  | tuple (item : FieldType)
  | mapping (item : FieldType)
  | model (name : String)
  /-- At least two members, none of them a union. The long form spells the union out. -/
  | union (long : Bool) (members : List FieldType)
  deriving Inhabited

namespace FieldType

/-! ## Equal types -/

mutual

def beq : FieldType → FieldType → Bool
  | text, text => true
  | integer, integer => true
  | real, real => true
  | boolean, boolean => true
  | bytes, bytes => true
  | decimal, decimal => true
  | anything, anything => true
  | nothing, nothing => true
  | bareList, bareList => true
  | bareMapping, bareMapping => true
  | list a, list b => beq a b
  | tuple a, tuple b => beq a b
  | mapping a, mapping b => beq a b
  | model m, model n => m == n
  | union long as, union long' bs => long == long' && beqAll as bs
  | _, _ => false

def beqAll : List FieldType → List FieldType → Bool
  | [], [] => true
  | a :: as, b :: bs => beq a b && beqAll as bs
  | _, _ => false

end

instance : BEq FieldType := ⟨beq⟩

/-! ## Building unions -/

/-- The members of a union, and a type alone otherwise. -/
def members : FieldType → List FieldType
  | union _ ms => ms
  | a => [a]

def isLong : FieldType → Bool
  | union long _ => long
  | _ => false

/-- Keeps the first of equal types. -/
def dedupe (as : List FieldType) : List FieldType :=
  as.foldl (fun kept a => if kept.contains a then kept else kept ++ [a]) []

/-- The union of types: unions inside are opened, equal members are kept once, and a
single member stands for itself. One long union makes the whole long. -/
def unite (long : Bool) (as : List FieldType) : FieldType :=
  match dedupe (as.flatMap members) with
  | [a] => a
  | ms => union (long || as.any isLong) ms

/-! ## Taking unions and lists apart -/

def isNothing : FieldType → Bool
  | nothing => true
  | _ => false

/-- A union of nothing and exactly one other member gives that member, marked as optional. -/
def unwrapOptional : FieldType → FieldType × Bool
  | union long ms =>
    match ms.filter (!·.isNothing) with
    | [a] => if ms.any isNothing then (a, true) else (union long ms, false)
    | _ => (union long ms, false)
  | a => (a, false)

/-- A list with a declared item gives the item. -/
def unwrapList : FieldType → FieldType × Bool
  | list item => (item, true)
  | a => (a, false)

/-! ## Display -/

/-- The name of a plain type with its home. -/
def plainName? : FieldType → Option String
  | text => some "str"
  | integer => some "int"
  | real => some "float"
  | boolean => some "bool"
  | bytes => some "bytes"
  | decimal => some "decimal.Decimal"
  | nothing => some "NoneType"
  | bareList => some "list"
  | bareMapping => some "dict"
  | model name => some ("models." ++ name)
  | _ => none

/-- The short name of a type. -/
def shortName : FieldType → String
  | decimal => "Decimal"
  | anything => "Any"
  | model name => name
  | a => a.plainName?.getD ""

mutual

/-- A type as it is written inside another. -/
def inner : FieldType → String
  | anything => "typing.Any"
  | list item => "list[" ++ inner item ++ "]"
  | tuple item => "tuple[" ++ inner item ++ ", ...]"
  | mapping item => "dict[str, " ++ inner item ++ "]"
  | union true [a, nothing] => "typing.Optional[" ++ inner a ++ "]"
  | union true [nothing, a] => "typing.Optional[" ++ inner a ++ "]"
  | union true ms => "typing.Union[" ++ ", ".intercalate (innerAll ms) ++ "]"
  | union false ms => " | ".intercalate (memberAll ms)
  | a => a.plainName?.getD ""

def innerAll : List FieldType → List String
  | [] => []
  | a :: as => inner a :: innerAll as

def memberAll : List FieldType → List String
  | [] => []
  | nothing :: as => "None" :: memberAll as
  | a :: as => inner a :: memberAll as

end

/-- A type as it is displayed alone. -/
def display (a : FieldType) : String :=
  match a.plainName? with
  | some name => "<class '" ++ name ++ "'>"
  | none => a.inner

/-! ## The laws -/

mutual

theorem beq_self : ∀ a : FieldType, beq a a = true
  | text | integer | real | boolean | bytes | decimal | anything | nothing | bareList
  | bareMapping => by rfl
  | list a | tuple a | mapping a => by rw [beq]; exact beq_self a
  | model m => by rw [beq]; exact beq_self_eq_true m
  | union long as => by rw [beq, beqAll_self as]; simp

theorem beqAll_self : ∀ as : List FieldType, beqAll as as = true
  | [] => rfl
  | a :: as => by rw [beqAll, beq_self a, beqAll_self as]; rfl

end

mutual

theorem eq_of_beq : ∀ {a b : FieldType}, beq a b = true → a = b := by
  intro a b h
  -- types of different forms are never equal, and a form without parts is equal to itself
  cases a <;> cases b <;> first | rfl | cases h | skip
  case list.list => exact congrArg list (eq_of_beq h)
  case tuple.tuple => exact congrArg tuple (eq_of_beq h)
  case mapping.mapping => exact congrArg mapping (eq_of_beq h)
  case model.model => exact congrArg model (LawfulBEq.eq_of_beq h)
  case union.union =>
    obtain ⟨hlong, hall⟩ := Bool.and_eq_true_iff.1 h
    rw [LawfulBEq.eq_of_beq hlong, eq_of_beqAll hall]

theorem eq_of_beqAll : ∀ {as bs : List FieldType}, beqAll as bs = true → as = bs
  | [], [], _ => rfl
  | a :: as, b :: bs, h => by
    obtain ⟨ha, has⟩ := Bool.and_eq_true_iff.1 h
    rw [eq_of_beq ha, eq_of_beqAll has]

end

instance : LawfulBEq FieldType where
  eq_of_beq := eq_of_beq
  rfl := beq_self _

end FieldType

/-- What a schema may be asked for: a model, another type, or no type at all. -/
inductive Target where
  | model (name : String)
  | type (kind : FieldType)
  | value (value : Value)
  deriving Inhabited

namespace Target

def title : Target → String
  | model name => name
  | type a => a.shortName
  | value v => v.display

end Target

end QueryBinding
