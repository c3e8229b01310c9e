-- Queries over the nodes of a document, as trees of operations, and what can be
-- wrong with them.

namespace QueryBinding.XPath

/-- Why a query has no answer. -/
inductive Defect where
  /-- The text of the query holds characters that no document may hold. -/
  | unusableText
  | unfinishedLiteral
  | missingLiteral
  | missingVariable
  | undefinedVariable
  | malformedPredicate
  | malformedExpression
  | unclosedTest
  | unknownFunction
  | wrongType
  | wrongArity
  /-- The size of the context was asked for where there is none. -/
  | noSize
  /-- The position in the context was asked for where there is none. -/
  | noPosition
  | unknownPrefix
  | tooDeep
  deriving Repr, DecidableEq

def Defect.message : Defect → String
  | unusableText =>
    "All strings must be XML compatible: Unicode or ASCII, no NULL bytes or control characters"
  | unfinishedLiteral => "Unfinished literal"
  | missingLiteral => "Start of literal"
  | missingVariable => "Expected $ for variable reference"
  | undefinedVariable => "Undefined variable"
  | malformedPredicate => "Invalid predicate"
  | malformedExpression => "Invalid expression"
  | unclosedTest => "Missing closing curly brace"
  | unknownFunction => "Unregistered function"
  | wrongType => "Invalid type"
  | wrongArity => "Invalid number of arguments"
  | noSize => "Invalid context size"
  | noPosition => "Invalid context position"
  | unknownPrefix => "Undefined namespace prefix"
  | tooDeep => "Recursion limit exceeded"

/-- A direction in which nodes are looked for. -/
inductive Axis where
  | ancestor
  | ancestorOrSelf
  | attributes
  | child
  | descendant
  | descendantOrSelf
  | following
  | followingSibling
  | bindings
  | parent
  | preceding
  | precedingSibling
  | self
  deriving Repr, DecidableEq

namespace Axis

/-- Axes by the words that name them. -/
def names : List (String × Axis) := [
  ("ancestor", ancestor), ("ancestor-or-self", ancestorOrSelf), ("attribute", attributes),
  ("child", child), ("descendant", descendant), ("descendant-or-self", descendantOrSelf),
  ("following", following), ("following-sibling", followingSibling), ("namespace", bindings),
  ("parent", parent), ("preceding", preceding), ("preceding-sibling", precedingSibling),
  ("self", self)]

def ofName? (word : String) : Option Axis := names.lookup word

end Axis

/-- Which of the nodes in a direction are meant. -/
inductive Test where
  /-- All nodes of the kind that the axis is about, perhaps in one namespace only. -/
  | every (part : Option String)
  | named (part : Option String) (loc : String)
  | node
  | text
  | comment
  | instruction (target : Option String)
  deriving Repr, DecidableEq

namespace Test

/-- The prefix that a test uses. -/
def part? : Test → Option String
  | every part => part
  | named part _ => part
  | _ => none

end Test

inductive Operator where
  | or
  | and
  | equal
  | unequal
  | less
  | lessOrEqual
  | greater
  | greaterOrEqual
  | add
  | subtract
  | multiply
  | divide
  | remainder
  deriving Repr, DecidableEq

inductive Expr where
  | literal (s : String)
  | number (x : Float)
  | reference (part : Option String) (name : String)
  | call (part : Option String) (name : String) (arguments : List Expr)
  | binary (op : Operator) (left right : Expr)
  /-- A number, with its sign turned round or not. -/
  | signed (negative : Bool) (e : Expr)
  | union (left right : Expr)
  /-- The whole document. -/
  | root
  /-- The node that the query is asked at. -/
  | here
  /-- The nodes of a whole set that satisfy a predicate. -/
  | filter (e predicate : Expr)
  /-- The nodes that are found from those of a set. -/
  | step (start : Expr) (axis : Axis) (test : Test) (predicates : List Expr)

namespace Expr

instance : Inhabited Expr := ⟨here⟩

/-- Everything below a set of nodes, with the nodes. -/
def deep (e : Expr) : Expr := step e .descendantOrSelf .node []

end Expr

end QueryBinding.XPath
