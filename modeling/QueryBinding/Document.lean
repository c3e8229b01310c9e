-- Documents and what queries find in them. A document is known by what it
-- answers: the matches of a query, and the text of a node.
import QueryBinding.Failure

namespace QueryBinding

/-- One result of a query. -/
inductive Match (ν : Type) where
  | node (n : ν)
  | text (s : String)
  /-- A result that has no text, such as a number. -/
  | other (v : Value)

namespace Match

variable {ν : Type}

def kind : Match ν → MatchKind
  | node _ => .node
  | text _ => .string
  | other _ => .other

def isNode : Match ν → Bool
  | node _ => true
  | _ => false

/-- A match of a text, which may have been made from another value. -/
def ofString (v : Value) : Match ν := .text v.plain

/-- The displayed value of a match that is no node. -/
def shown : Match ν → String
  | node _ => "None"
  | text s => Text.quoteString s
  | other v => v.display

end Match

structure Document (ν : Type) where
  /-- The matches of a query, below a node or in the whole document. -/
  evaluate : String → Option ν → Except Failure (List (Match ν))
  /-- The text of a node. -/
  nodeText : ν → Except Failure String
  /-- How many nodes there are. -/
  size : Nat

namespace Document

variable {ν : Type}

/-- The node at the end of a list of steps, each a query and the number of a match. -/
def scope? (d : Document ν) (from_ : Option ν) : List (String × Nat) → Except Failure (Option ν)
  | [] => .ok from_
  | (query, index) :: rest => do
    let found ← d.evaluate query from_
    match found[index]? with
    | some (.node n) => d.scope? (some n) rest
    | _ => .error (.fault (.raised "scope is no node"))

/-- What a value that is no node gives when its text is asked for. -/
def textOfValue (v : Value) : Failure :=
  .field (.query none ("Node of type " ++ v.kind ++ " has no textual value"))

end Document

end QueryBinding
