-- Documents made from markup, and what queries find in them.
import QueryBinding.Document
import QueryBinding.Markup.Html.Page
import QueryBinding.Markup.Xml
import QueryBinding.XPath.Eval
import QueryBinding.XPath.Grammar

namespace QueryBinding.Markup

open QueryBinding.XPath (Place)

/-- What stands at a place, as a match. The whole document is no match. -/
def matchAt? (t : Table) (p : Place) : Option (Match Nat) :=
  match p with
  | .node i =>
    match t.content i with
    | .document => none
    | .leaf (.text s) => some (.text s)
    | _ => some (.node i)
  | .attr i k => some (.text (XPath.attributeOf t i k).value)
  | .binding i k =>
    let b := XPath.bindingOf t i k
    some (.other (.tuple [(b.part.map Value.text).getD .none, .text b.space]))

/-- The matches in a result. -/
def matchesOf (t : Table) : XPath.Result → List (Match Nat)
  | .places ps => ps.filterMap (matchAt? t)
  | .text s => [.text s]
  | .number x => [.other (.float x)]
  | .truth b => [.other (.bool b)]

/-- What is answered when there is no query at all. -/
def missingQuery : Failure :=
  .field (.query none "XPath evaluation failed: Argument must be bytes or unicode, got 'NoneType'")

/-- What a query finds below a node, or below the root when no node is given. -/
def evaluate (t : Table) (query : String) (scope : Option Nat) :
    Except Failure (List (Match Nat)) :=
  let context : XPath.Context := ⟨.node ((scope.or t.root?).getD 0), none⟩
  match XPath.Grammar.read query >>= XPath.eval t context with
  | .ok r => .ok (matchesOf t r)
  | .error d => .error (.field (.query (some query) ("XPath evaluation failed: " ++ d.message)))

def document (t : Table) : Document Nat :=
  ⟨evaluate t, fun i => .ok (t.visibleText i), t.size⟩

/-- The table of a well-formed document. -/
def Table.ofXml (bs : List UInt8) : Except Fault Table := return .ofTrees (← Xml.ofBytes bs)

/-- The table of a page. -/
def Table.ofHtml (s : String) : Except Fault Table := return .ofTrees (← Html.ofCharacters s.toList)

end QueryBinding.Markup
