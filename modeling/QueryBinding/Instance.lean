-- Instances of models, built from data under keys. A field is looked for under
-- its alias first and then, where the model says so, under its name; a field
-- that is not found takes its default.
import QueryBinding.Keyed
import QueryBinding.Validation

namespace QueryBinding

namespace Validation

/-- Data under keys, in the order in which it was given. -/
abbrev Entries := List (String × Value)

/-! ## Looking for a field -/

/-- The item at a position; positions below zero count from the end. -/
def itemAt? (items : List Value) (i : Int) : Option Value :=
  if 0 ≤ i then items[i.toNat]?
  else if (-i).toNat ≤ items.length then items[items.length - (-i).toNat]?
  else none

/-- One step into nested data. Texts are not taken apart. -/
def stepInto? : Value → Identifier → Option Value
  | .mapping es, .name s => es.lookup s
  | .list items, .position i => itemAt? items i
  | .tuple items, .position i => itemAt? items i
  | _, _ => none

def followFrom? (v : Value) : Path → Option Value
  | [] => some v
  | s :: rest => (stepInto? v s).bind fun w => followFrom? w rest

/-- What lies at the end of a way into data. -/
def follow? (data : Entries) (steps : Path) : Option Value := followFrom? (.mapping data) steps

/-- The ways on which a field is looked for: those of its alias, and its name when it has no alias
or the model reads names too. -/
def waysTo (m : Model) (f : FieldDecl) : List Path :=
  match f.readingAlias? with
  | none => [[.name f.name]]
  | some a => a.ways ++ (if m.readsNames then [[.name f.name]] else [])

/-- The first way that leads to a value, with the value. -/
def find? (m : Model) (f : FieldDecl) (data : Entries) : Option (Path × Value) :=
  (waysTo m f).findSome? fun p => (follow? data p).map fun v => (p, v)

/-- Where a complaint about a field is located, given the way on which it was looked for. -/
def locate (m : Model) (f : FieldDecl) (steps : Path) : Path :=
  if m.config.locateByAlias then steps else [.name f.name]

/-! ## Limits and checks -/

def plural (n : Int) (word : String) : String :=
  toString n ++ " " ++ word ++ (if n = 1 then "" else "s")

/-- The limit on the length of a text or a list that a value breaks. -/
def lengthIssue? (limits : Limits) : Value → Option Issue
  | .text s =>
    let n : Int := s.length
    if limits.minLength.any (n < ·) then
      some (issue "string_too_short"
        ("String should have at least " ++ plural (limits.minLength.getD 0) "character"))
    else if limits.maxLength.any (· < n) then
      some (issue "string_too_long"
        ("String should have at most " ++ plural (limits.maxLength.getD 0) "character"))
    else none
  | .list items =>
    let n : Int := items.length
    if limits.minLength.any (n < ·) then
      some (issue "too_short" ("List should have at least " ++
        plural (limits.minLength.getD 0) "item" ++ " after validation, not " ++ toString n))
    else if limits.maxLength.any (· < n) then
      some (issue "too_long" ("List should have at most " ++
        plural (limits.maxLength.getD 0) "item" ++ " after validation, not " ++ toString n))
    else none
  | _ => none

/-- Whether one number is at most another. -/
def atMost (a b : Value) : Bool :=
  match a.number?, b.number? with
  | some x, some y => x.lessEq y
  | _, _ => true

/-- The bound that a number breaks; the upper one is told first. -/
def boundIssue? (limits : Limits) (v : Value) : Option Issue :=
  match v.number? with
  | none => none
  | some _ =>
    match limits.most, limits.least with
    | some top, some bottom =>
      if !atMost v top then some (tooLarge top)
      else if !atMost bottom v then some (tooSmall bottom)
      else none
    | some top, none => if atMost v top then none else some (tooLarge top)
    | none, some bottom => if atMost bottom v then none else some (tooSmall bottom)
    | none, none => none
where
  tooLarge (top : Value) : Issue :=
    issue "less_than_equal" ("Input should be less than or equal to " ++ top.plain)
  tooSmall (bottom : Value) : Issue :=
    issue "greater_than_equal" ("Input should be greater than or equal to " ++ bottom.plain)

def keepsLimits (limits : Limits) (v : Value) : Checked Value :=
  match (lengthIssue? limits v).or (boundIssue? limits v) with
  | some i => reject i
  | none => .ok v

/-- Whether a value keeps a rule that does no more than test it. -/
def FieldRule.holds : FieldRule → Value → Bool
  | .never, _ => false
  | .lowercase, .text s => s == Text.lowerString s
  | .lowercase, _ => true
  | .nonempty, .text s => !s.isEmpty
  | .nonempty, .list items => !items.isEmpty
  | .nonempty, .tuple items => !items.isEmpty
  | .nonempty, .mapping es => !es.isEmpty
  | .nonempty, _ => true
  | .custom _, _ => true

/-- What a rule makes of a value, given the fields before; nothing, where the rule is broken. -/
def FieldRule.revised? (rule : FieldRule) (earlier : Entries) (v : Value) : Option Value :=
  match rule with
  | .custom revise => revise earlier v
  | rule => if FieldRule.holds rule v then some v else none

/-- The checks of a field, one after the other. The first that a value fails decides. -/
def passChecks (earlier : Entries) : List FieldCheck → Value → Checked Value
  | [], v => .ok v
  | c :: cs, v =>
    match FieldRule.revised? c.rule earlier v with
    | some w => passChecks earlier cs w
    | none => reject (complained c.complaint)

/-! ## Fields -/

abbrev Build := String → Value → Checked Value

/-- Makes a value into the type of a field, within its limits and checks. -/
def checkField (build : Build) (f : FieldDecl) (earlier : Entries) (v : Value) : Checked Value := do
  let v ← check build f.type v
  let v ← keepsLimits f.limits v
  passChecks earlier f.checks v

/-- The value of a field that was not found. -/
def defaultField (build : Build) (m : Model) (f : FieldDecl) (earlier : Entries) : Checked Value :=
  match f.default? with
  | some v =>
    if m.config.validateDefault then located [.name f.name] (checkField build f earlier v)
    else .ok v
  | none => located (locate m f ((waysTo m f).headD [])) (reject required)

/-- The value of a field, given the fields before it. -/
def readField (build : Build) (m : Model) (data : Entries) (f : FieldDecl) (earlier : Entries) :
    Checked Value :=
  match find? m f data with
  | some (steps, v) => located (locate m f steps) (checkField build f earlier v)
  | none => defaultField build m f earlier

/-- Fields in declaration order, or all complaints about them. A field that is rejected is not among
the fields before the next. -/
def readEach (build : Build) (m : Model) (data : Entries) :
    List FieldDecl → Entries → Checked Entries
  | [], _ => .ok []
  | f :: fs, earlier =>
    match readField build m data f earlier with
    | .ok v => (readEach build m data fs (earlier ++ [(f.name, v)])).map fun es => (f.name, v) :: es
    | .error is =>
      match readEach build m data fs earlier with
      | .ok _ => .error is
      | .error js => .error (is ++ js)

/-- The keys under which fields were found. -/
def usedKeys (m : Model) (data : Entries) : List Identifier :=
  m.fields.filterMap fun f => (find? m f data).bind fun (steps, _) => steps.head?

def extraIssues (m : Model) (data : Entries) : List Issue :=
  if m.config.forbidExtra then
    (data.filter fun (k, _) => !(usedKeys m data).contains (.name k)).map fun (k, _) =>
      Issue.under [.name k] extraForbidden
  else []

/-- All fields with their values, or all complaints, those about unknown keys last. -/
def readFields (build : Build) (m : Model) (data : Entries) : Checked Entries :=
  match readEach build m data m.fields [], extraIssues m data with
  | .ok values, [] => .ok values
  | .ok _, extra => .error extra
  | .error is, extra => .error (is ++ extra)

/-! ## Checks of a whole model -/

/-- Moves the value under a key; a key that is not there gives a mark instead. -/
def renameKey (old : String) (new : Option String) (data : Entries) : Entries :=
  let rest := Keyed.remove old data
  match new with
  | none => rest
  | some k => Keyed.put k ((data.lookup old).getD (.text "added")) rest

/-- What the checks before reading make of the data; the last declared works first. -/
def prepare (m : Model) (data : Entries) : Entries :=
  m.checks.foldr (fun c data =>
    match c with
    | .rename old new => renameKey old new data
    | _ => data) data

def ModelCheck.fails (fields : Entries) : ModelCheck → Option Complaint
  | .equal left right complaint =>
    match fields.lookup left, fields.lookup right with
    | some a, some b => if a.same b then none else some complaint
    | _, _ => none
  | .accepted test complaint => if test fields then none else some complaint
  | .rename .. => none

/-- The first check that the fields fail together decides. -/
def keepsModelChecks (m : Model) (fields : Entries) : Checked Entries :=
  match m.checks.findSome? (ModelCheck.fails fields) with
  | some c => reject (complained c)
  | none => .ok fields

/-! ## Instances -/

/-- An instance from data under keys. -/
def recordOf (build : Build) (m : Model) (data : Entries) : Checked Value := do
  let fields ← readFields build m (prepare m data)
  let fields ← keepsModelChecks m fields
  return .record m.name fields

/-- An instance that wraps a value, or the default of its field. -/
def rootedOf (build : Build) (m : Model) (v : Option Value) : Checked Value :=
  match m.fields.head? with
  | none => .ok (.rooted m.name .none)
  | some f => do
    let root ← match v with
      | some v => checkField build f [] v
      | none =>
        match f.default? with
        | some d => if m.config.validateDefault then checkField build f [] d else .ok d
        | none => reject required
    return .rooted m.name root

mutual

/-- How many parts a value has. -/
def sizeOf : Value → Nat
  | .list items => 1 + sizeOfItems items
  | .tuple items => 1 + sizeOfItems items
  | .mapping es => 1 + sizeOfEntries es
  | .record _ fs => 1 + sizeOfEntries fs
  | .rooted _ r => 1 + sizeOf r
  | _ => 1

def sizeOfItems : List Value → Nat
  | [] => 0
  | v :: vs => sizeOf v + sizeOfItems vs

def sizeOfEntries : List (String × Value) → Nat
  | [] => 0
  | (_, v) :: es => sizeOf v + sizeOfEntries es

end

/-- Builds an instance of a model from any value, to a depth. Some models are busy with a value of
this size: a model that comes up again for that value would come up for ever. A smaller value is a
part of it, and no model is busy with that. -/
def buildWithin (family : Family) : Nat → Nat → List String → Build
  | 0, _, _, _, _ => reject endless
  | depth + 1, size, busy, name, v =>
    let busy := if sizeOf v < size then [] else busy
    if busy.contains name then reject endless
    else match family.model? name with
      | none => reject (modelType name)
      | some m =>
        if m.wraps then rootedOf (buildWithin family depth (sizeOf v) (name :: busy)) m (some v)
        else match v with
          | .mapping data => recordOf (buildWithin family depth 0 []) m data
          | _ => reject (modelType name)

/-- How deep instances can nest in one value. -/
def nestingLimit : Nat := 255

/-- How the values of fields become instances, given the value that a model wraps. -/
def builder (family : Family) (m : Model) : Option Value → Build
  | none => buildWithin family nestingLimit 0 []
  | some v => buildWithin family nestingLimit (sizeOf v) [m.name]

/-- Builds an instance from named values. -/
def instanceOf (family : Family) (m : Model) (data : Entries) : Checked Value :=
  recordOf (builder family m none) m data

/-- Builds an instance that wraps a value, if there is one. -/
def wrapperOf (family : Family) (m : Model) (v : Option Value) : Checked Value :=
  rootedOf (builder family m v) m v

end Validation

end QueryBinding
