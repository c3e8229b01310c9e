-- Reading queries. The levels of operators are steps over the level below, and
-- only what stands in brackets goes down into a whole expression again.
import QueryBinding.Markup.Character
import QueryBinding.Reader
import QueryBinding.XPath.Expr
import QueryBinding.XPath.Numeral

namespace QueryBinding.XPath.Grammar

open QueryBinding.Markup (isSpace isNameStart isNamePart)

abbrev Rule := Reader Defect

/-- How deep brackets may be nested. -/
def depthLimit : Nat := 500

/-! ## Words -/

def skipSpace : Rule Unit := do
  let _ ← Reader.span isSpace

/-- A name without a colon, if one comes next. -/
def name? : Rule (Option String) := do
  match ← Reader.ahead with
  | c :: _ =>
    if isNameStart c then return some (String.ofList (← Reader.span isNamePart)) else return none
  | [] => return none

/-- A name with a prefix or without one. -/
def qualified (reason : Defect) : Rule (Option String × String) := do
  match ← name? with
  | none => throw reason
  | some first =>
    if ← Reader.accept ":" then
      match ← name? with
      | some second => return (some first, second)
      | none => throw reason
    return (none, first)

def literal : Rule String := do
  match ← Reader.ahead with
  | '"' :: _ => closeAt "\""
  | '\'' :: _ => closeAt "'"
  | _ => throw .missingLiteral
where
  closeAt (mark : String) : Rule String := do
    Reader.drop 1
    return String.ofList (← Reader.upTo .unfinishedLiteral mark)

def number : Rule Expr := do
  match Numeral.read? (← Reader.ahead) with
  | some (x, rest) =>
    set rest
    return .number x
  | none => throw .malformedExpression

/-! ## Steps of a path -/

/-- The words that test for a kind of node. -/
def testWords : List String := ["comment", "node", "processing-instruction", "text"]

/-- The rest of a test for a kind of node, after its bracket. -/
def kindTest (word : String) : Rule Test := do
  let test ← match word with
    | "comment" => pure Test.comment
    | "node" => pure Test.node
    | "text" => pure Test.text
    | "processing-instruction" => do
      skipSpace
      if ← Reader.sees ")" then pure (Test.instruction none)
      else pure (Test.instruction (some (← literal)))
    | _ => throw .malformedExpression
  skipSpace
  Reader.demand .unclosedTest ")"
  return test

/-- A test, whose first name may have been read already. -/
def test (seen : Option String) : Rule Test := do
  skipSpace
  if seen.isNone && (← Reader.accept "*") then return .every none
  let first ← match seen with
    | some n => pure n
    | none => do
      match ← name? with
      | some n => pure n
      | none => throw .malformedExpression
  let gap ← Reader.span isSpace
  if ← Reader.accept "(" then return ← kindTest first
  if gap.isEmpty && (← Reader.accept ":") then
    if ← Reader.accept "*" then return .every (some first)
    match ← name? with
    | some second => return .named (some first) second
    | none => throw .malformedExpression
  return .named none first

/-- The axis of a step, and the name that was read in looking for it but belongs to the test. -/
def axis : Rule (Axis × Option String) := do
  if ← Reader.sees "*" then return (.child, none)
  match ← name? with
  | some word =>
    match Axis.ofName? word with
    | none => return (.child, some word)
    | some axis =>
      skipSpace
      if ← Reader.accept "::" then return (axis, none)
      return (.child, some word)
  | none => if ← Reader.accept "@" then return (.attributes, none) else return (.child, none)

def predicate (inner : Rule Expr) : Rule Expr := do
  Reader.drop 1
  skipSpace
  let e ← inner
  Reader.demand .malformedPredicate "]"
  skipSpace
  return e

def predicates (inner : Rule Expr) : Rule (List Expr) :=
  Reader.many do
    if ← Reader.sees "[" then return some (← predicate inner)
    return none

/-- One step from the nodes found so far. -/
def step (inner : Rule Expr) (start : Expr) : Rule Expr := do
  skipSpace
  if ← Reader.accept ".." then
    skipSpace
    return .step start .parent .node []
  if ← Reader.accept "." then
    skipSpace
    return start
  let (axis, seen) ← axis
  let test ← test seen
  skipSpace
  return .step start axis test (← predicates inner)

/-- The slash before a step, if there is one, and what it makes of the nodes found so far. -/
def slash? (start : Expr) : Rule (Option Expr) := do
  if ← Reader.accept "//" then
    skipSpace
    return some start.deep
  if ← Reader.accept "/" then
    skipSpace
    return some start
  return none

/-- Steps with slashes between them; there may be one before the first. -/
def relativePath (inner : Rule Expr) (start : Expr) : Rule Expr := do
  skipSpace
  let start := (← slash? start).getD start
  let first ← step inner start
  skipSpace
  Reader.chain (fun e => do
    match ← slash? e with
    | none => return none
    | some e =>
      let e ← step inner e
      skipSpace
      return some e) first

/-- Whether a query is made of plain steps only. In such a query any name may follow the slash
that stands for the document; in others it has to begin with an ASCII letter. -/
def isPlain (cs : List Char) : Bool := cs.all fun c => !"[(@:".toList.contains c

def opensStep (plain : Bool) (c : Char) : Bool :=
  c.isAlpha || c == '_' || c == '.' || c == '@' || c == '*' || (plain && isNameStart c)

def path (inner : Rule Expr) (plain : Bool) : Rule Expr := do
  if ← Reader.sees "/" then
    Reader.chain (fun e => do
      if ← Reader.accept "//" then
        skipSpace
        return some (← relativePath inner e.deep)
      if ← Reader.accept "/" then
        skipSpace
        if (← Reader.peek).any (opensStep plain) then return some (← relativePath inner e)
        return some e
      return none) .root
  else relativePath inner .here

/-! ## Operands -/

/-- The arguments of a function after the bracket. The last bracket may be missing. -/
def arguments (inner : Rule Expr) : Rule (List Expr) := do
  skipSpace
  let found ← Reader.many do
    match ← Reader.ahead with
    | [] => return none
    | ')' :: _ => return none
    | _ =>
      let e ← inner
      match ← Reader.ahead with
      | ')' :: _ => return some e
      | ',' :: _ =>
        Reader.drop 1
        skipSpace
        if ← Reader.sees ")" then throw .malformedExpression
        return some e
      | _ => throw .malformedExpression
  Reader.drop 1
  return found

def primary (inner : Rule Expr) : Rule Expr := do
  match ← Reader.ahead with
  | '$' :: _ =>
    Reader.drop 1
    let (part, n) ← qualified .missingVariable
    return .reference part n
  | '(' :: _ =>
    Reader.drop 1
    skipSpace
    let e ← inner
    Reader.demand .malformedExpression ")"
    return e
  | c :: _ =>
    if c.isDigit || c == '.' then number
    else if c == '"' || c == '\'' then return .literal (← literal)
    else
      let (part, n) ← qualified .malformedExpression
      skipSpace
      Reader.demand .malformedExpression "("
      return .call part n (← arguments inner)
  | [] => throw .malformedExpression

/-- Whether an operand is a path, which is told by what it begins with. -/
def isPath (cs : List Char) : Except Defect Bool :=
  match cs with
  | [] => .error .malformedExpression
  | c :: rest =>
    if c == '$' || c == '(' || c == '\'' || c == '"' || c.isDigit then .ok false
    else if c == '.' then .ok (!rest.head?.any Char.isDigit)
    else if c == '*' || c == '/' || c == '@' then .ok true
    else if isNameStart c || c == ':' then
      let inName (c : Char) := isNamePart c || c == ':'
      let word := cs.takeWhile inName
      if (Reader.cutAt? "::".toList word).isSome then .ok true
      else match (cs.dropWhile inName).dropWhile isSpace with
        | '(' :: _ => .ok (testWords.contains (String.ofList word))
        | _ => .ok true
    else .error .malformedExpression

/-- A path, or another operand with predicates and perhaps a path after it. -/
def operand (inner : Rule Expr) (plain : Bool) : Rule Expr := do
  skipSpace
  let e ←
    if ← isPath (← Reader.ahead) then path inner plain
    else do
      let first ← primary inner
      skipSpace
      let e := (← predicates inner).foldl Expr.filter first
      if ← Reader.accept "//" then
        skipSpace
        relativePath inner e.deep
      else if ← Reader.sees "/" then relativePath inner e
      else pure e
  skipSpace
  return e

/-! ## Operators -/

/-- Operands with operators of one level between them, taken together from the left. -/
def level (operators : List (String × Operator)) (below : Rule Expr) : Rule Expr := do
  let first ← below
  skipSpace
  Reader.chain (fun left => do
    let cs ← Reader.ahead
    match operators.find? fun (mark, _) => mark.toList.isPrefixOf cs with
    | none => return none
    | some (mark, op) =>
      Reader.drop mark.length
      skipSpace
      let right ← below
      skipSpace
      return some (.binary op left right)) first

def unions (inner : Rule Expr) (plain : Bool) : Rule Expr := do
  let first ← operand inner plain
  Reader.chain (fun left => do
    if ← Reader.accept "|" then
      return some (.union left (← operand inner plain))
    return none) first

def signs : Rule (List Char) := do
  let found ← Reader.many do
    skipSpace
    if ← Reader.accept "-" then return some '-'
    return none
  return found

def unary (inner : Rule Expr) (plain : Bool) : Rule Expr := do
  skipSpace
  let found ← signs
  let e ← unions inner plain
  if found.isEmpty then return e
  return .signed (found.length % 2 == 1) e

/-- The levels above the sign, the tightest one first. -/
def levels : List (List (String × Operator)) := [
  [("*", .multiply), ("div", .divide), ("mod", .remainder)],
  [("+", .add), ("-", .subtract)],
  [("<=", .lessOrEqual), (">=", .greaterOrEqual), ("<", .less), (">", .greater)],
  [("=", .equal), ("!=", .unequal)],
  [("and", .and)],
  [("or", .or)]]

/-- An expression in which brackets are nested at most so deep. -/
def expression (plain : Bool) : Nat → Rule Expr
  | 0 => throw .tooDeep
  | depth + 1 => levels.foldl (fun below operators => level operators below)
      (unary (expression plain depth) plain)

/-- Reads a query. -/
def read (s : String) : Except Defect Expr :=
  let cs := s.toList
  if cs.all Markup.isAllowed then
    Reader.whole .malformedExpression (expression (isPlain cs) depthLimit) cs
  else .error .unusableText

end QueryBinding.XPath.Grammar
