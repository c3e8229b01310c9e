-- Schemas: the fields of a model in declaration order, each with the way it is
-- bound. The shape of a queried field follows from its declared type unless
-- its directive says otherwise.
import QueryBinding.FieldSpec

namespace QueryBinding

structure Schema where
  /-- The model that the schema belongs to. -/
  target : String
  fields : List FieldSpec
  /-- Whether fields are called by position. -/
  positional : Bool
  deriving Inhabited

namespace Schema

def identifiers (s : Schema) : List Identifier := s.fields.map (·.identifier)

def field? (s : Schema) (i : Identifier) : Option FieldSpec := s.fields.find? (·.identifier == i)

def field (s : Schema) (i : Identifier) : Except Fault FieldSpec :=
  match s.field? i with
  | some f => .ok f
  | none => .error (.unknownField i)

/-! ## The shape of a declared type -/

/-- The model that a type is. -/
def modelOf? : FieldType → Option Target
  | .model name => some (.model name)
  | _ => none

/-- The shape that a directive forces on the innermost type. -/
def explicitShape (kind : ShapeKind) (leaf : FieldType) (optional : Bool) :
    Except SchemaCause (TargetShape × BindingMode) :=
  let mode : BindingMode :=
    if kind = .optionalScalar ∨ (kind = .nestedOne ∧ optional) then .optional else .required
  if !kind.nested then .ok (⟨kind, none⟩, mode)
  else match modelOf? leaf with
    | some target => .ok (⟨kind, some target⟩, mode)
    | none => .error (.notNested kind leaf.display)

/-- The shape and the mode of a queried field. A transform may make a text into anything, so with
one every leaf type will do. -/
def inferShape (type : FieldType) (explicit : Option ShapeKind) (transformed : Bool) :
    Except SchemaCause (TargetShape × BindingMode) :=
  let (inner, optional) := type.unwrapOptional
  let (item, isList) := inner.unwrapList
  match explicit with
  | some kind => explicitShape kind (if isList then item else inner) optional
  | none =>
    if isList then
      if optional then .error .optionalList
      else match modelOf? item with
        | some target => .ok (⟨.nestedList, some target⟩, .required)
        | none =>
          if item == .text || transformed then .ok (⟨.stringList, none⟩, .required)
          else .error (.unboundItems item.display)
    else
      let mode : BindingMode := if optional then .optional else .required
      match modelOf? inner with
      | some target => .ok (⟨.nestedOne, some target⟩, mode)
      | none =>
        if inner == .text || transformed then
          .ok (⟨if optional then .optionalScalar else .scalar, none⟩, mode)
        else .error (.unbound inner.display)

/-! ## Building a schema -/

/-- The parts of a field, if they fit together. -/
def specOf (s : FieldSpec) : Except SchemaCause FieldSpec :=
  match s.transform with
  | some t =>
    if t.isCallable then fits s else .error (.spec ["Input should be callable"])
  | none => fits s
where
  fits (s : FieldSpec) : Except SchemaCause FieldSpec :=
    match s.check with
    | .ok s => .ok s
    | .error f => .error (.spec [f.message])

/-- Values are bound by name, so an alias must be the name unless the model reads names. -/
def checkAliases (m : Model) (f : FieldDecl) : Except SchemaCause Unit :=
  if m.readsNames then .ok ()
  else match ((f.aliasName.map Alias.key).toList ++ f.readingAlias?.toList).find?
      (· != Alias.key f.name) with
    | some a => .error (.aliased a.display)
    | none => .ok ()

def bindingOf (identifier : Identifier) (d : Directive) (f : FieldDecl) :
    Except SchemaCause FieldSpec :=
  match d.mode with
  | some mode =>
    if f.isRequired then .error (.needsDefault mode)
    else specOf ⟨identifier, mode, d.query, none, d.transform,
      if mode = .useDefault then f.default? else none⟩
  | none => do
    let (shape, mode) ← inferShape f.type d.shape d.transform.isSome
    specOf ⟨identifier, mode, d.query, some shape, d.transform, none⟩

def fieldOf (m : Model) (identifier : Identifier) (f : FieldDecl) : Except SchemaCause FieldSpec :=
  match f.directives with
  | [] => .error .noDirective
  | [d] => do
    if !m.wraps then checkAliases m f
    bindingOf identifier d f
  | _ => .error .severalDirectives

def fieldsFrom (m : Model) (index : Nat) : List FieldDecl → Except SchemaFailure (List FieldSpec)
  | [] => .ok []
  | f :: fs =>
    let identifier : Identifier := if m.wraps then .position index else .name f.name
    match fieldOf m identifier f with
    | .error cause => .error ⟨m.name, cause, some identifier⟩
    | .ok spec => (fieldsFrom m (index + 1) fs).map (spec :: ·)

def ofModel (m : Model) : Except SchemaFailure Schema :=
  (fieldsFrom m 0 m.fields).map fun fields => ⟨m.name, fields, m.wraps⟩

/-- The schema of what is asked for, which must be a model. -/
def ofTarget (family : Family) (t : Target) : Except SchemaFailure Schema :=
  match t with
  | .model name =>
    match family.model? name with
    | some m => ofModel m
    | none => .error ⟨name, .notModel, none⟩
  | t => .error ⟨t.title, .notModel, none⟩

end Schema

end QueryBinding
