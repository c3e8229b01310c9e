-- Runs, and coercion: making the matches of a query into the value of a field,
-- as its shape says. A run carries the registry, the counts of transforms, the
-- log, and a trace of the calls that it has made.
import QueryBinding.Document
import QueryBinding.Log
import QueryBinding.Registry

namespace QueryBinding

/-- A call to something outside the engine. -/
inductive Call (ν : Type) where
  | query (query : String) (scope : Option ν)
  | factory (identifier : Identifier)
  | transform (identifier : Identifier) (value : Value)

structure World (ν : Type) where
  registry : Registry
  calls : Transform.Calls
  log : Log.Journal
  trace : List (Call ν)

/-- A computation that changes the world and may fail. -/
abbrev Run (ν : Type) := ExceptT Failure (StateM (World ν))

namespace Run

variable {ν α : Type}

def ofExcept : Except Failure α → Run ν α
  | .ok a => pure a
  | .error e => throw e

def ofFault : Except Fault α → Run ν α
  | .ok a => pure a
  | .error e => throw (.fault e)

/-- Notes a call. -/
def note (c : Call ν) : Run ν Unit := modify fun w => { w with trace := w.trace ++ [c] }

def log (logger : Log.Logger) (event : String) (values : Log.Fields) : Run ν Unit :=
  modify fun w => { w with log := w.log.log logger .debug event values }

/-- Runs and then looks at how it ended, whether it failed or not. -/
def ensuring (action : Run ν α) (after : Except Failure α → World ν → World ν) : Run ν α :=
  fun w =>
    let (result, w) := action.run.run w
    (result, after result w)

/-- A failure inside belongs to a field. -/
def within (identifier : Identifier) (action : Run ν α) : Run ν α :=
  fun w =>
    match action.run.run w with
    | (.error e, w) => (.error (e.within identifier), w)
    | (.ok a, w) => (.ok a, w)

end Run

namespace Coercion

variable {ν : Type}

/-- The text of a match. A node that cannot be read is a failed conversion. -/
def textOf (d : Document ν) : Match ν → Except Failure String
  | .text s => .ok s
  | .node n =>
    match d.nodeText n with
    | .ok s => .ok s
    | .error (.field (.query _ reason)) => .error (.field (.conversion (.unreadable reason)))
    | .error e => .error e
  | .other v => .error (.field (.conversion (.notText v.kind v.display)))

def requireNode : Match ν → Except Failure ν
  | .node n => .ok n
  | m => .error (.field (.conversion (.notNode (Choice.text m.kind) m.shown)))

/-- The texts of all matches, or the failure of the first that has none. -/
def allTexts (d : Document ν) : List (Match ν) → Except Failure (List String)
  | [] => .ok []
  | m :: ms => do
    let s ← textOf d m
    let rest ← allTexts d ms
    return s :: rest

/-- The texts of the matches that have one. Only failed conversions are passed over. -/
def someTexts (d : Document ν) : List (Match ν) → Except Failure (List String)
  | [] => .ok []
  | m :: ms =>
    match textOf d m with
    | .ok s => (someTexts d ms).map (s :: ·)
    | .error (.field (.conversion _)) => someTexts d ms
    | .error e => .error e

/-- A list of texts, with a word in the log about matches that were dropped. -/
def stringList (d : Document ν) (spec : FieldSpec) (policy : StringListPolicy)
    (ms : List (Match ν)) : Run ν Value :=
  match policy with
  | .error => do
    let texts ← Run.ofExcept (allTexts d ms)
    return .list (texts.map .text)
  | .drop => do
    let texts ← Run.ofExcept (someTexts d ms)
    if texts.length < ms.length then
      Run.log Log.coercionLogger "Dropped unconvertible list matches"
        [("extra", .mapping [("query", (spec.query.map Value.text).getD .none),
          ("dropped", .int (ms.length - texts.length : Nat))])]
    return .list (texts.map .text)

/-- Every node match as a structure, in order. -/
def nestedList (nested : Target → ν → Run ν Value) (target : Target) :
    List (Match ν) → Run ν (List Value)
  | [] => return []
  | m :: ms => do
    let n ← Run.ofExcept (requireNode m)
    let v ← nested target n
    let rest ← nestedList nested target ms
    return v :: rest

/-- The target of a shape; a nested shape has one. -/
def targetOf (shape : TargetShape) : Target := shape.target.getD (.value .none)

/-- Makes matches into the value of a field. -/
def coerce (d : Document ν) (nested : Target → ν → Run ν Value) (policy : StringListPolicy)
    (spec : FieldSpec) (ms : List (Match ν)) : Run ν Value :=
  match spec.shape with
  | none => throw (.fault (.shapeless spec.identifier))
  | some shape =>
    match shape.kind, ms with
    | .stringList, ms => stringList d spec policy ms
    | .nestedList, ms => do
      let vs ← nestedList nested (targetOf shape) ms
      return .list vs
    | .optionalScalar, [] => return .none
    | .nestedOne, [] =>
      if spec.optional then return .none else throw (.field (.missing (spec.query.getD "")))
    | .scalar, [] => throw (.field (.missing (spec.query.getD "")))
    | .nestedOne, m :: _ => do
      let n ← Run.ofExcept (requireNode m)
      nested (targetOf shape) n
    | _, m :: _ => do
      let s ← Run.ofExcept (textOf d m)
      return .text s

/-- A failure of a transform is a failed conversion that names the transform. -/
def transformed (t : Transform) : Except Failure Value → Except Failure Value
  | .ok v => .ok v
  | .error e => .error (.field (.conversion (.transform t.name e.message)))

/-- Calls the transform of a field once, if it has one. -/
def applyTransform (spec : FieldSpec) (v : Value) : Run ν Value :=
  match spec.transform with
  | none => return v
  | some t => do
    Run.note (.transform spec.identifier v)
    fun w =>
      let (result, calls) := (t.apply v).run.run w.calls
      (transformed t result, { w with calls := calls })

end Coercion

end QueryBinding
