-- Documents that are written down as the answers to their queries.
import QueryBinding.Document

namespace QueryBinding.Stub

mutual

/-- A node with its text, if it has one, and the answers to queries below it. -/
inductive Node where
  | mk (text : Option String) (answers : List (String × Answer))

/-- What a query gives: matches, a refusal, or the stop of the program behind it. -/
inductive Answer where
  | found (results : List Result)
  | refused (reason : String)
  | stopped (message : String)

inductive Result where
  | text (s : String)
  | node (n : Node)
  | other (v : Value)

end

instance : Inhabited Node := ⟨.mk none []⟩

instance : Inhabited Answer := ⟨.found []⟩

instance : Inhabited Result := ⟨.text ""⟩

namespace Node

def text : Node → Option String
  | mk text _ => text

def answers : Node → List (String × Answer)
  | mk _ answers => answers

mutual

/-- How many nodes there are below a node, with the node. -/
def size : Node → Nat
  | mk _ answers => 1 + sizeOfAnswers answers

def sizeOfAnswers : List (String × Answer) → Nat
  | [] => 0
  | (_, a) :: rest => sizeOfAnswer a + sizeOfAnswers rest

def sizeOfAnswer : Answer → Nat
  | .found results => sizeOfResults results
  | .refused _ => 0
  | .stopped _ => 0

def sizeOfResults : List Result → Nat
  | [] => 0
  | r :: rest => sizeOfResult r + sizeOfResults rest

def sizeOfResult : Result → Nat
  | .node n => size n
  | .text _ => 0
  | .other _ => 0

end

end Node

def Result.toMatch : Result → Match Node
  | .text s => .text s
  | .node n => .node n
  | .other v => .other v

def evaluate (root : Node) (query : String) (scope : Option Node) :
    Except Failure (List (Match Node)) :=
  match (scope.getD root).answers.lookup query with
  | none => .ok []
  | some (.found results) => .ok (results.map Result.toMatch)
  | some (.refused reason) => .error (.field (.query (some query) reason))
  | some (.stopped message) => .error (.fault (.raised message))

def nodeText (n : Node) : Except Failure String :=
  match n.text with
  | some s => .ok s
  | none => .error (.field (.query none "node has no text"))

def document (root : Node) : Document Node := ⟨evaluate root, nodeText, root.size⟩

end QueryBinding.Stub
