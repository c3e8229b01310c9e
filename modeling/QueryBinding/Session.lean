-- A session: one registry, and the values materialized so far, through a
-- sequence of steps. A schema stays the same as long as its entry stays.
import QueryBinding.Materialize

namespace QueryBinding

structure Session where
  family : Family
  registry : Registry
  calls : Transform.Calls
  log : Log.Journal
  /-- The models whose schema was handed out, as long as they stay registered. -/
  returned : List String
  values : List Value

namespace Session

def start (family : Family) (log : Log.Journal) : Session := ⟨family, .empty, [], log, [], []⟩

/-- Forgets handed-out schemas that are no longer registered. -/
def settle (s : Session) : Session :=
  { s with returned := s.returned.filter s.registry.contains }

/-- Lets a run work on the registry, the counts and the log of the session. -/
def lift {ν α : Type} (action : Run ν α) (s : Session) : Except Failure α × Session :=
  let (result, w) := action.run.run ⟨s.registry, s.calls, s.log, []⟩
  (result, settle { s with registry := w.registry, calls := w.calls, log := w.log })

/-- Registers a target, and tells whether its schema is the one that was handed out before. -/
def register (t : Target) (s : Session) : Except Failure (Schema × Bool) × Session :=
  let (result, next) := lift (Binder.lookup s.family t : Run Unit Schema) s
  match result with
  | .error e => (.error e, next)
  | .ok schema =>
    (.ok (schema, s.returned.contains schema.target),
      { next with returned := schema.target :: next.returned.filter (· != schema.target) })

def contains (t : Target) (s : Session) : Except Failure Bool :=
  match Registry.checkKey t with
  | .error e => .error (.fault e)
  | .ok () => .ok (s.registry.holds t)

def clear (s : Session) : Session := settle { s with registry := .empty }

/-- Materializes a target and keeps the value. -/
def materialize {ν : Type} (document : Document ν) (policy : StringListPolicy) (t : Target)
    (scope : Option ν) (presets : Binder.Bound) (s : Session) : Except Failure Value × Session :=
  let (result, next) :=
    lift (Binder.materialize ⟨s.family, document, policy⟩ t scope presets) s
  match result with
  | .error e => (.error e, next)
  | .ok v => (.ok v, { next with values := next.values ++ [v] })

/-- A value with an item put at the end of the list in one of its fields. -/
def appended (field : String) (item : Value) : Value → Option Value
  | .record m fields =>
    match fields.lookup field with
    | some (.list items) => some (.record m (Keyed.put field (.list (items ++ [item])) fields))
    | _ => none
  | .rooted m (.list items) =>
    if field == "root" then some (.rooted m (.list (items ++ [item]))) else none
  | _ => none

def append (index : Nat) (field : String) (item : Value) (s : Session) :
    Except Failure Value × Session :=
  match (s.values[index]?).bind (appended field item) with
  | some v => (.ok v, { s with values := s.values.set index v })
  | none => (.error (.fault (.raised "no such list")), s)

def equal (left right : Nat) (s : Session) : Bool :=
  match s.values[left]?, s.values[right]? with
  | some a, some b => left == right || a.same b
  | _, _ => false

/-- The models of the family that are registered, in declaration order. -/
def registered (s : Session) : List String :=
  (s.family.map (·.name)).filter s.registry.contains

end Session

end QueryBinding
