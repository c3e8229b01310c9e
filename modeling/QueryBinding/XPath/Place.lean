-- The places in a document that a query can reach: its nodes, and the attributes
-- and namespaces of its elements. The laws say that a set of places can be put
-- in document order without losing any.
import QueryBinding.Markup.Table
import QueryBinding.XPath.Expr

namespace QueryBinding.XPath

open QueryBinding.Markup

inductive Place where
  | node (i : Nat)
  | binding (i k : Nat)
  | attr (i k : Nat)
  deriving Repr, DecidableEq, Inhabited

namespace Place

/-- The node itself, or the element that it belongs to. -/
def owner : Place → Nat
  | node i => i
  | binding i _ => i
  | attr i _ => i

/-- Namespaces come after their element, and attributes after those. -/
def rank : Place → Nat × Nat
  | node _ => (0, 0)
  | binding _ k => (1, k)
  | attr _ k => (2, k)

/-- Whether a place comes no later than another in the document. -/
def le (p q : Place) : Bool :=
  p.owner < q.owner || (p.owner == q.owner &&
    (p.rank.1 < q.rank.1 || (p.rank.1 == q.rank.1 && p.rank.2 ≤ q.rank.2)))

end Place

/-- Neighbours that are the same become one. -/
def dedup : List Place → List Place
  | [] => []
  | p :: ps => if ps.head? == some p then dedup ps else p :: dedup ps

/-- A set of places in document order. -/
def inOrder (ps : List Place) : List Place := dedup (ps.mergeSort Place.le)

/-! ## What is at a place -/

def numbered {α : Type} (make : Nat → Place) (xs : List α) : List Place :=
  (List.range xs.length).map make

/-- The namespaces that can be used inside an element, the nearest first. -/
def bindingsFrom (t : Table) : List Nat → List Binding → List Binding
  | [], found => found
  | i :: is, found =>
    let declared := ((t.tag? i).map (·.bindings)).getD []
    bindingsFrom t is (declared.foldl (fun found b =>
      if found.any (·.part == b.part) then found else found ++ [b]) found)

def xmlBinding : Binding := ⟨some "xml", "http://www.w3.org/XML/1998/namespace"⟩

/-- The namespaces that can be used inside an element: the reserved one, and then the others with
the farthest first. -/
def bindingsAt (t : Table) (i : Nat) : List Binding :=
  match t.tag? i with
  | some _ => xmlBinding :: (bindingsFrom t (i :: t.ancestors i) []).reverse
  | none => []

def attributesAt (t : Table) (i : Nat) : List Attribute := ((t.tag? i).map (·.attributes)).getD []

def bindingOf (t : Table) (i k : Nat) : Binding := ((bindingsAt t i)[k]?).getD default

def attributeOf (t : Table) (i k : Nat) : Attribute := ((attributesAt t i)[k]?).getD default

/-- The text that a place stands for. -/
def textAt (t : Table) : Place → String
  | .node i => t.meantText i
  | .binding i k => (bindingOf t i k).space
  | .attr i k => (attributeOf t i k).value

/-- The name of a place, as far as it has one. -/
def nameAt? (t : Table) : Place → Option Name
  | .node i =>
    match t.content i with
    | .element tag => some tag.name
    | .leaf (.instruction target _) => some (.plain target)
    | _ => none
  | .binding i k => (bindingOf t i k).part.map .plain
  | .attr i k => some (attributeOf t i k).name

/-! ## Directions -/

/-- The places in a direction, the nearest first. -/
def placesOn (t : Table) (axis : Axis) (p : Place) : List Place :=
  let i := p.owner
  let nodes (is : List Nat) : List Place := is.map .node
  match axis, p with
  | .self, _ => [p]
  | .attributes, .node i => numbered (.attr i) (attributesAt t i)
  | .bindings, .node i => numbered (.binding i) (bindingsAt t i)
  | .child, .node i => nodes (t.children i)
  | .descendant, .node i => nodes (t.below i)
  | .descendantOrSelf, .node i => p :: nodes (t.below i)
  | .descendantOrSelf, _ => [p]
  | .parent, .node i => if i == 0 then [] else nodes [t.parent i]
  | .parent, _ => nodes [i]
  | .ancestor, .node i => nodes (t.ancestors i)
  | .ancestor, _ => nodes (i :: t.ancestors i)
  | .ancestorOrSelf, .node i => p :: nodes (t.ancestors i)
  | .ancestorOrSelf, _ => p :: nodes (i :: t.ancestors i)
  | .following, _ => nodes (t.following i)
  | .preceding, _ => nodes (t.preceding i)
  | .followingSibling, .node i => nodes (t.followingSiblings i)
  | .precedingSibling, .node i => nodes (t.precedingSiblings i)
  | _, _ => []

/-- The only prefix that queries can use. -/
def spaceOf (part : String) : Except Defect String :=
  if part == "xml" then .ok xmlBinding.space else .error .unknownPrefix

/-- Whether a place is of the kind that an axis is about. -/
def isPrincipal (t : Table) (axis : Axis) : Place → Bool
  | .node i => axis != .attributes && axis != .bindings && (t.tag? i).isSome
  | .binding .. => axis == .bindings
  | .attr .. => axis == .attributes

/-- Whether a place passes a test, in the given namespace if one is asked for. -/
def passes (t : Table) (axis : Axis) (test : Test) (space : Option String) (p : Place) : Bool :=
  match test with
  | .every _ =>
    isPrincipal t axis p &&
      (axis == .bindings || space.isNone || (nameAt? t p).bind (·.space) == space)
  | .named _ loc =>
    isPrincipal t axis p && (nameAt? t p).any fun n =>
      n.loc == loc && (axis == .bindings || n.space == space)
  | .node =>
    match p with
    | .node i =>
      match t.content i with
      | .leaf (.reference ..) => false
      | _ => true
    | _ => true
  | .text =>
    match p with
    | .node i =>
      match t.content i with
      | .leaf (.text _) => true
      | _ => false
    | _ => false
  | .comment =>
    match p with
    | .node i =>
      match t.content i with
      | .leaf (.comment _) => true
      | _ => false
    | _ => false
  | .instruction target =>
    match p with
    | .node i =>
      match t.content i with
      | .leaf (.instruction name _) => target.isNone || target == some name
      | _ => false
    | _ => false

end QueryBinding.XPath
