-- The registry of schemas. Registering a model registers the models that its
-- fields nest, in field order; a model that is being registered counts as
-- registered, so that models may refer to each other in circles. If a nested
-- model is refused, the entry of the model that nests it is taken back.
import QueryBinding.Schema

namespace QueryBinding

structure Registry where
  /-- Schemas by the name of their model, in the order of registration. -/
  entries : List (String × Schema)
  deriving Inhabited

namespace Registry

def empty : Registry := ⟨[]⟩

def get? (r : Registry) (name : String) : Option Schema := r.entries.lookup name

def contains (r : Registry) (name : String) : Bool := (r.get? name).isSome

def size (r : Registry) : Nat := r.entries.length

def insert (name : String) (s : Schema) (r : Registry) : Registry :=
  ⟨Keyed.put name s r.entries⟩

def erase (name : String) (r : Registry) : Registry := ⟨Keyed.remove name r.entries⟩

/-- How a registration has ended: its result, the registry after it, and the schemas that were
finished on the way, in order. -/
structure Outcome (α : Type) where
  result : Except SchemaFailure α
  registry : Registry
  finished : List Schema

/-- The models that a schema nests, in field order. -/
def nested (s : Schema) : List String :=
  s.fields.filterMap fun f =>
    match f.target? with
    | some (.model name) => some name
    | _ => none

/-- Registers names one after the other, up to the first that is refused. -/
def registerEach (register : Registry → String → Outcome Schema) :
    Registry → List String → Outcome Unit
  | r, [] => ⟨.ok (), r, []⟩
  | r, name :: rest =>
    let first := register r name
    match first.result with
    | .error e => ⟨.error e, first.registry, first.finished⟩
    | .ok _ =>
      let others := registerEach register first.registry rest
      ⟨others.result, others.registry, first.finished ++ others.finished⟩

/-- Registers a model, to a depth of nesting. -/
def registerWithin (family : Family) : Nat → Registry → String → Outcome Schema
  | 0, r, name => ⟨.error ⟨name, .notModel, none⟩, r, []⟩
  | depth + 1, r, name =>
    match r.get? name with
    | some s => ⟨.ok s, r, []⟩
    | none =>
      match Schema.ofTarget family (.model name) with
      | .error e => ⟨.error e, r, []⟩
      | .ok s =>
        let rest := registerEach (registerWithin family depth) (r.insert name s) (nested s)
        match rest.result with
        | .error e => ⟨.error e, rest.registry.erase name, rest.finished⟩
        | .ok _ => ⟨.ok s, rest.registry, rest.finished ++ [s]⟩

/-- Registers a model. Each level of nesting is a model that was not registered before. -/
def register (family : Family) (r : Registry) (name : String) : Outcome Schema :=
  registerWithin family (family.length + 1) r name

/-! ## Targets of any kind -/

mutual

/-- Why a value cannot serve as a key: it, or a part of it, may change. -/
def unhashable? : Value → Option String
  | .list _ => some "list"
  | .mapping _ => some "dict"
  | .record m _ => some m
  | .rooted m _ => some m
  | .tuple items => unhashableItem? items
  | _ => none

def unhashableItem? : List Value → Option String
  | [] => none
  | v :: vs => (unhashable? v).or (unhashableItem? vs)

end

def checkKey : Target → Except Fault Unit
  | .value v =>
    match unhashable? v with
    | some kind => .error (.unhashable kind)
    | none => .ok ()
  | _ => .ok ()

def holds (r : Registry) : Target → Bool
  | .model name => r.contains name
  | _ => false

/-! ## The laws -/

@[simp] theorem get?_insert_self (name : String) (s : Schema) (r : Registry) :
    (r.insert name s).get? name = some s := Keyed.lookup_put_self name s r.entries

theorem get?_insert_ne {name other : String} (h : other ≠ name) (s : Schema) (r : Registry) :
    (r.insert name s).get? other = r.get? other := Keyed.lookup_put_ne h s r.entries

@[simp] theorem get?_erase_self (name : String) (r : Registry) : (r.erase name).get? name = none :=
  Keyed.lookup_remove_self name r.entries

theorem get?_erase_ne {name other : String} (h : other ≠ name) (r : Registry) :
    (r.erase name).get? other = r.get? other := Keyed.lookup_remove_ne h r.entries

theorem contains_iff {r : Registry} {name : String} :
    r.contains name = true ↔ ∃ s, r.get? name = some s := Option.isSome_iff_exists

end Registry

end QueryBinding
