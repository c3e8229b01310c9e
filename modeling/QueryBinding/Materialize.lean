-- Materializing: building instances of models from documents. Fields are bound
-- in declaration order, nested structures below the node that was matched, and
-- the first failure ends the whole.
import QueryBinding.Coercion

namespace QueryBinding

/-- What stays the same during one materialization. -/
structure Binder (ν : Type) where
  family : Family
  document : Document ν
  policy : StringListPolicy

namespace Binder

variable {ν : Type}

/-! ## Schemas -/

/-- Identifiers as values for the log. -/
def pathValues (path : Path) : List Value :=
  path.map fun i =>
    match i with
    | .name n => .text n
    | .position p => .int p

def announce (s : Schema) : Run ν Unit :=
  Run.log Log.schemaLogger "Schema registered"
    [("extra", .mapping [("target", .text s.target), ("fields", .list (pathValues s.identifiers))])]

def announceAll : List Schema → Run ν Unit
  | [] => return ()
  | s :: ss => do
    announce s
    announceAll ss

/-- The schema of a target, registered on first use. -/
def lookup (family : Family) (t : Target) : Run ν Schema := do
  Run.ofFault (Registry.checkKey t)
  match t with
  | .model name =>
    let w ← get
    let outcome := w.registry.register family name
    set { w with registry := outcome.registry }
    announceAll outcome.finished
    match outcome.result with
    | .ok s => return s
    | .error e => throw (.schema e)
  | t =>
    match Schema.ofTarget family t with
    | .ok s => return s
    | .error e => throw (.schema e)

/-! ## Assembling -/

/-- Values bound to fields, in the order of binding. -/
abbrev Bound := List (Identifier × Value)

/-- The entries of a structure whose fields have names. -/
def namedEntries (values : Bound) : Validation.Entries :=
  values.filterMap fun (i, v) =>
    match i with
    | .name n => some (n, v)
    | .position _ => none

/-- The field that a complaint is about, by the head of its location: a field of that name, or else
one with that alias. A complaint about the whole has no field. -/
def errorPath (schema : Schema) (m : Model) (location : Path) : Path :=
  if schema.positional then [.position 0]
  else match location with
    | [] => []
    | head :: _ =>
      if schema.identifiers.contains head then [head]
      else match m.fields.find? fun f => answersTo f head with
        | some f => [.name f.name]
        | none => []
where
  answersTo (f : FieldDecl) (head : Identifier) : Bool :=
    f.aliasName.any (fun a => Identifier.name a == head) ||
      (match f.readingAlias? with
        | some (.key k) => Identifier.name k == head
        | _ => false)

def rejected (schema : Schema) (m : Model) (issues : List Issue) : Failure :=
  match issues with
  | [] => .extraction [] (.conversion (.validation ""))
  | i :: _ => .extraction (errorPath schema m i.path) (.conversion (.validation i.message))

/-- An instance from bound values, validated. -/
def assemble (family : Family) (schema : Schema) (values : Bound) : Except Failure Value :=
  match family.model? schema.target with
  | none => .error (.schema ⟨schema.target, .notModel, none⟩)
  | some m =>
    let result :=
      if schema.positional then Validation.wrapperOf family m (values.lookup (.position 0))
      else Validation.instanceOf family m (namedEntries values)
    match result with
    | .ok v => .ok v
    | .error issues => .error (rejected schema m issues)

/-! ## Binding fields -/

/-- Asks the query of a field, makes its matches into a value, and transforms it. -/
def bindField (b : Binder ν) (nested : Target → ν → Run ν Value) (scope : Option ν)
    (spec : FieldSpec) : Run ν Value := do
  let query := spec.query.getD ""
  Run.note (.query query scope)
  let ms ← Run.ofExcept (b.document.evaluate query scope)
  let v ← Coercion.coerce b.document nested b.policy spec ms
  Coercion.applyTransform spec v

/-- The value of one field, if it gets one here. -/
def bindOne (b : Binder ν) (nested : Target → ν → Run ν Value) (scope : Option ν) (presets : Bound)
    (spec : FieldSpec) : Run ν (Option Value) :=
  match spec.mode, spec.factory with
  | .ignore, _ => return presets.lookup spec.identifier
  | .useDefault, some v => do
    Run.note (.factory spec.identifier)
    return some v
  | _, _ => do
    let v ← Run.within spec.identifier (b.bindField nested scope spec)
    return some v

/-- The values of fields, one after the other. -/
def bindAll (b : Binder ν) (nested : Target → ν → Run ν Value) (scope : Option ν)
    (presets : Bound) : List FieldSpec → Run ν Bound
  | [] => return []
  | spec :: specs => do
    let v ← b.bindOne nested scope presets spec
    let rest ← b.bindAll nested scope presets specs
    match v with
    | some v => return (spec.identifier, v) :: rest
    | none => return rest

/-- Builds an instance by its schema, to a depth of nesting. -/
def structureWithin (b : Binder ν) : Nat → Schema → Option ν → Bound → Run ν Value
  | 0, _, _, _ => throw .endless
  | depth + 1, schema, scope, presets => do
    let nested (t : Target) (n : ν) : Run ν Value := do
      let inner ← lookup b.family t
      b.structureWithin depth inner (some n) []
    let values ← b.bindAll nested scope presets schema.fields
    Run.ofExcept (assemble b.family schema values)

/-- How deep structures can nest before a model meets the same node again. -/
def depth (b : Binder ν) : Nat := (b.family.length + 1) * (b.document.size + 1) + 1

/-! ## The whole -/

/-- The names of presets that are no ignored fields, sorted. -/
def unknownPresets (schema : Schema) (presets : Bound) : List String :=
  let ignored := (schema.fields.filter (·.mode == .ignore)).map (·.identifier)
  ((presets.filter fun (i, _) => !ignored.contains i).map (·.1.text)).mergeSort

def checkPresets (schema : Schema) (presets : Bound) : Except Failure Unit :=
  match unknownPresets schema presets with
  | [] => .ok ()
  | names => .error (.fault (.notIgnored schema.target names))

/-- Tells the log how a materialization has ended. Only failures of fields are told, while they are
handled. -/
def report (result : Except Failure Value) (w : World ν) : World ν :=
  match result with
  | .ok _ =>
    { w with log := w.log.log Log.materializeLogger .debug "Materialization completed" [] }
  | .error (.extraction path cause) =>
    let log := (w.log.handling (.extraction path cause)).log Log.materializeLogger .debug
      "Materialization failed" [("extra",
        .mapping [("field_path", .list (pathValues path)), ("cause", .text cause.title)])]
    { w with log := w.log.handled log }
  | .error _ => w

/-- Binds values in the log while something runs. -/
def logging (values : Log.Fields) (action : Run ν Value) : Run ν Value :=
  fun w =>
    let (tokens, log) := w.log.enter values
    let (result, w) := action.run.run { w with log := log }
    (result, { w with log := w.log.leave tokens })

/-- Builds one instance of a target, below a node or from the whole document. Presets reach the
ignored fields of the instance itself. -/
def materialize (b : Binder ν) (t : Target) (scope : Option ν) (presets : Bound) : Run ν Value := do
  let schema ← lookup b.family t
  Run.ofExcept (checkPresets schema presets)
  logging [("target", .text schema.target)]
    (Run.ensuring (b.structureWithin b.depth schema scope presets) report)

end Binder

end QueryBinding
