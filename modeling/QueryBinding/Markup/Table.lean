-- The nodes of a document in a row, numbered in the order in which they begin.
-- What is below a node comes right after it, so every question about who
-- contains whom is a question about numbers.
import QueryBinding.Markup.Tree

namespace QueryBinding.Markup

inductive Content where
  | document
  | element (tag : Tag)
  | leaf (l : Leaf)
  deriving Repr, DecidableEq, Inhabited

structure Row where
  content : Content
  /-- The number of the node that contains this one. -/
  parent : Nat
  /-- The first number after what is below this node. -/
  stop : Nat
  deriving Repr, DecidableEq, Inhabited

abbrev Table := Array Row

namespace Table

mutual

/-- The rows of a tree whose own number is `at_`, below the node `parent`. -/
def rows (parent at_ : Nat) : Tree Tag → List Row
  | .leaf l => [⟨.leaf l, parent, at_ + 1⟩]
  | .element tag children =>
    let below := rowsAll at_ (at_ + 1) children
    ⟨.element tag, parent, at_ + 1 + below.length⟩ :: below

def rowsAll (parent at_ : Nat) : List (Tree Tag) → List Row
  | [] => []
  | t :: ts =>
    let first := rows parent at_ t
    first ++ rowsAll parent (at_ + first.length) ts

end

/-- The table of a document, which is number zero. -/
def ofTrees (ts : List (Tree Tag)) : Table :=
  let below := rowsAll 0 1 ts
  (⟨.document, 0, 1 + below.length⟩ :: below).toArray

def content (t : Table) (i : Nat) : Content := (t[i]?.map (·.content)).getD default

def parent (t : Table) (i : Nat) : Nat := (t[i]?.map (·.parent)).getD 0

def stop (t : Table) (i : Nat) : Nat := (t[i]?.map (·.stop)).getD 0

def tag? (t : Table) (i : Nat) : Option Tag :=
  match t.content i with
  | .element tag => some tag
  | _ => none

/-- The numbers from one on, up to another. -/
def between (low high : Nat) : List Nat := List.range' low (high - low)

/-- What is below a node. -/
def below (t : Table) (i : Nat) : List Nat := between (i + 1) (t.stop i)

def children (t : Table) (i : Nat) : List Nat := (t.below i).filter fun j => t.parent j == i

def ancestorsFrom (t : Table) : Nat → Nat → List Nat
  | 0, _ => []
  | fuel + 1, i => if i == 0 then [] else t.parent i :: t.ancestorsFrom fuel (t.parent i)

/-- What contains a node, the nearest first. -/
def ancestors (t : Table) (i : Nat) : List Nat := t.ancestorsFrom t.size i

/-- What begins after the end of a node. -/
def following (t : Table) (i : Nat) : List Nat := between (t.stop i) t.size

/-- What ends before a node, the nearest first. -/
def preceding (t : Table) (i : Nat) : List Nat :=
  ((between 1 i).filter fun j => t.stop j ≤ i).reverse

def siblings (t : Table) (i : Nat) : List Nat := if i == 0 then [] else t.children (t.parent i)

def followingSiblings (t : Table) (i : Nat) : List Nat := (t.siblings i).filter (i < ·)

def precedingSiblings (t : Table) (i : Nat) : List Nat := ((t.siblings i).filter (· < i)).reverse

/-- The root, which is the first element outside of all others. -/
def root? (t : Table) : Option Nat := (t.children 0).find? fun i => (t.tag? i).isSome

def leafText (f : Leaf → String) (t : Table) (i : Nat) : String :=
  match t.content i with
  | .leaf l => f l
  | _ => ""

/-- The text of a node: that of a leaf by itself, or that of the leaves below. -/
def textWith (f : Leaf → String) (t : Table) (i : Nat) : String :=
  match t.content i with
  | .leaf l => l.own
  | _ => String.join ((t.below i).map (leafText f t))

/-- The text of a node as a reader sees it. -/
def visibleText (t : Table) (i : Nat) : String := t.textWith Leaf.visible i

/-- The text of a node that is computed with. -/
def meantText (t : Table) (i : Nat) : String := t.textWith Leaf.meant i

end Table

end QueryBinding.Markup
