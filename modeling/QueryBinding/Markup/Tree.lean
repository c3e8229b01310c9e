-- The trees that markup describes: elements with what is inside them, and the
-- leaves between them. The laws say what the text of a tree is made of.

namespace QueryBinding.Markup

/-- The name of an element or an attribute, with the namespace it belongs to and the prefix
it was written with. -/
structure Name where
  part : Option String
  space : Option String
  loc : String
  deriving Repr, DecidableEq, Inhabited

namespace Name

/-- A name that belongs to no namespace. -/
def plain (s : String) : Name := ⟨none, none, s⟩

/-- A name as it is written in markup. -/
def written (n : Name) : String :=
  match n.part with
  | some p => p ++ ":" ++ n.loc
  | none => n.loc

/-- A name with its namespace in front. -/
def qualified (n : Name) : String :=
  match n.space with
  | some s => "\x7b" ++ s ++ "\x7d" ++ n.loc
  | none => n.loc

end Name

structure Attribute where
  name : Name
  value : String
  /-- Whether the value names its element in the whole document. -/
  identifies : Bool
  deriving Repr, DecidableEq, Inhabited

/-- A prefix, or none for names without one, and the namespace it stands for. -/
structure Binding where
  part : Option String
  space : String
  deriving Repr, DecidableEq, Inhabited

/-- What is written between the brackets that open an element. -/
structure Tag where
  name : Name
  /-- The namespaces declared there, in order. -/
  bindings : List Binding
  attributes : List Attribute
  deriving Repr, DecidableEq, Inhabited

inductive Leaf where
  | text (s : String)
  | comment (s : String)
  | instruction (target content : String)
  /-- A reference that is kept, with the text it stands for. -/
  | reference (name meaning : String)
  deriving Repr, DecidableEq, Inhabited

namespace Leaf

/-- The text of a reference as it is written. -/
def referenceText (name : String) : String := "&" ++ name ++ ";"

/-- The text of a leaf that is asked for by itself. -/
def own : Leaf → String
  | text s => s
  | comment s => s
  | instruction _ content => content
  | reference name _ => referenceText name

/-- What a leaf adds to the text that a reader sees, with references as they are written. -/
def visible : Leaf → String
  | text s => s
  | comment _ => ""
  | instruction .. => ""
  | reference name _ => referenceText name

/-- What a leaf adds to the text that is computed with, with references resolved. -/
def meant : Leaf → String
  | text s => s
  | comment _ => ""
  | instruction .. => ""
  | reference _ meaning => meaning

end Leaf

/-- A tree whose elements carry labels. -/
inductive Tree (τ : Type) where
  | leaf (l : Leaf)
  | element (tag : τ) (children : List (Tree τ))

namespace Tree

variable {τ : Type}

instance : Inhabited (Tree τ) := ⟨.leaf default⟩

mutual

/-- The leaves of a tree, in order. -/
def leaves : Tree τ → List Leaf
  | leaf l => [l]
  | element _ children => leavesAll children

def leavesAll : List (Tree τ) → List Leaf
  | [] => []
  | t :: ts => leaves t ++ leavesAll ts

end

/-- The text of a list of trees that is computed with. -/
def meantText (ts : List (Tree τ)) : String := String.join ((leavesAll ts).map Leaf.meant)

end Tree

/-! ## Runs of characters -/

/-- What is read inside an element: characters, or a whole tree. -/
inductive Piece (τ : Type) where
  | characters (cs : List Char)
  | tree (t : Tree τ)

namespace Piece

variable {τ : Type}

/-- The leaf for a run of characters, if there are any. -/
def run (cs : List Char) : List (Tree τ) :=
  if cs.isEmpty then [] else [.leaf (.text (String.ofList cs))]

/-- Joins neighbouring characters to one leaf, with those not yet placed in hand. -/
def gatherFrom (held : List Char) : List (Piece τ) → List (Tree τ)
  | [] => run held
  | .characters cs :: rest => gatherFrom (held ++ cs) rest
  | .tree t :: rest => run held ++ t :: gatherFrom [] rest

/-- The trees that pieces make, with neighbouring characters in one leaf. -/
def gather (pieces : List (Piece τ)) : List (Tree τ) := gatherFrom [] pieces

end Piece

end QueryBinding.Markup
