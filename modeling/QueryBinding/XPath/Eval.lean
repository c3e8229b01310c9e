-- Answering queries. Every part of a query is answered at a place, and a set of
-- places is always in document order.
import QueryBinding.XPath.Function

namespace QueryBinding.XPath

open QueryBinding.Markup

/-- What an operator makes of two results. -/
def Operator.run (t : Table) (op : Operator) (a b : Result) : Result :=
  let number (f : Float → Float → Float) : Result := .number (f (a.toNumber t) (b.toNumber t))
  match op with
  | .or => .truth (a.toTruth || b.toTruth)
  | .and => .truth (a.toTruth && b.toTruth)
  | .equal => .truth (a.equal t b)
  | .unequal => .truth (a.unequal t b)
  | .less => .truth (Result.ordered t (· < ·) a b)
  | .lessOrEqual => .truth (Result.ordered t (· ≤ ·) a b)
  | .greater => .truth (Result.ordered t (· > ·) a b)
  | .greaterOrEqual => .truth (Result.ordered t (· ≥ ·) a b)
  | .add => number (· + ·)
  | .subtract => number (· - ·)
  | .multiply => number (· * ·)
  | .divide => number (· / ·)
  | .remainder => number Numeral.remainder

/-- Whether the first result of an operator decides, so that the second is not asked for. -/
def Operator.decided (op : Operator) (a : Result) : Option Bool :=
  match op with
  | .or => if a.toTruth then some true else none
  | .and => if a.toTruth then none else some false
  | _ => none

/-- A number as a predicate means a position. -/
def Result.holdsAt (position : Nat) : Result → Bool
  | .number x => x == Float.ofNat position
  | r => r.toTruth

/-- The places of a list for which a question is answered with yes, each asked with its position. -/
def keep (ask : Context → Except Defect Result) (size : Nat) : Nat → List Place →
    Except Defect (List Place)
  | _, [] => .ok []
  | position, p :: ps => do
    let r ← ask ⟨p, some (position, size)⟩
    let rest ← keep ask size (position + 1) ps
    return if r.holdsAt position then p :: rest else rest

mutual

/-- Answers a query. -/
def eval (t : Table) (context : Context) : Expr → Except Defect Result
  | .literal s => .ok (.text s)
  | .number x => .ok (.number x)
  | .reference part _ => do
    if let some part := part then
      let _ ← spaceOf part
    throw .undefinedVariable
  | .call part name arguments => do
    let rs ← evalAll t context arguments
    if let some part := part then
      let _ ← spaceOf part
      throw .unknownFunction
    match function? t context name with
    | some f => f rs
    | none => throw .unknownFunction
  | .binary op left right => do
    let a ← eval t context left
    match op.decided a with
    | some b => return .truth b
    | none => return op.run t a (← eval t context right)
  | .signed negative e => do
    let x := (← eval t context e).toNumber t
    return .number (if negative then -x else x)
  | .union left right => do
    let a ← eval t context left
    let b ← eval t context right
    return .places (inOrder ((← a.places?) ++ (← b.places?)))
  | .root => .ok (.places [.node 0])
  | .here => .ok (.places [context.place])
  | .filter e predicate => do
    let ps ← (← eval t context e).places?
    return .places (← keep (fun c => eval t c predicate) ps.length 1 ps)
  | .step start axis test predicates => do
    let starts ← (← eval t context start).places?
    let space ← test.part?.mapM spaceOf
    let found ← starts.mapM fun p =>
      select t predicates ((placesOn t axis p).filter (passes t axis test space))
    return .places (inOrder found.flatten)

def evalAll (t : Table) (context : Context) : List Expr → Except Defect (List Result)
  | [] => .ok []
  | e :: es => do return (← eval t context e) :: (← evalAll t context es)

/-- The places of a list that satisfy predicates, each asked about those that are left. -/
def select (t : Table) : List Expr → List Place → Except Defect (List Place)
  | [], ps => .ok ps
  | e :: es, ps => do select t es (← keep (fun c => eval t c e) ps.length 1 ps)

end

end QueryBinding.XPath
