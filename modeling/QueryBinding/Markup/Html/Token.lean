-- The marks and texts of a page, one after the other. Every page can be read:
-- what is no mark is text, and what is left open ends with the page.
import QueryBinding.Markup.Html.Reference

namespace QueryBinding.Markup.Html

inductive Token where
  /-- The start of an element; `closed` when a slash ends it at once. -/
  | start (name : String) (attributes : List (String × Option String)) (closed : Bool)
  | stop (name : String)
  | text (cs : List Char)
  /-- Text in which nothing is a mark. -/
  | raw (cs : List Char)
  | comment (s : String)
  deriving Repr, DecidableEq

def isBlank (c : Char) : Bool := c == ' ' || c == '\t' || c == '\n' || c == '\x0c' || c == '\r'

/-- What stands in an element besides text with marks. -/
inductive Inside where
  | marks
  /-- Text with references but without marks. -/
  | references
  /-- Text with neither. -/
  | nothing
  deriving Repr, DecidableEq

def insideOf (name : String) : Inside :=
  if ["script", "style", "xmp", "iframe", "noembed", "noframes"].contains name then .nothing
  else if ["title", "textarea"].contains name then .references
  else .marks

/-- The text before a mark and the text after it, or the whole text. -/
def before (mark : List Char) : List Char → List Char × List Char
  | [] => ([], [])
  | c :: cs =>
    if mark.isPrefixOf (c :: cs) then ([], (c :: cs).drop mark.length)
    else
      let (front, rest) := before mark cs
      (c :: front, rest)

/-- Whether a text begins with a word, however its letters are written. -/
def beginsWith (word : String) (cs : List Char) : Bool :=
  (cs.take word.length).map Char.toLower == word.toList

/-- Whether a text begins with the end of an element. -/
def endsElement (name : String) (cs : List Char) : Bool :=
  match cs with
  | '<' :: '/' :: rest =>
    beginsWith name rest &&
      (rest.drop name.length).head?.all fun c => isBlank c || c == '/' || c == '>'
  | _ => false

/-- The text up to the end of an element, and the rest. -/
def upToEnd (name : String) : List Char → List Char × List Char
  | [] => ([], [])
  | c :: cs =>
    if endsElement name (c :: cs) then ([], c :: cs)
    else
      let (front, rest) := upToEnd name cs
      (c :: front, rest)

def lowered (cs : List Char) : String := String.ofList (cs.map Char.toLower)

/-- The value of an attribute, and the rest. -/
def attributeValue (cs : List Char) : List Char × List Char :=
  match cs with
  | '"' :: rest => before ['"'] rest
  | '\'' :: rest => before ['\''] rest
  | _ => (cs.takeWhile inValue, cs.dropWhile inValue)
where
  inValue (c : Char) : Bool := !isBlank c && c != '>'

/-- One attribute and the rest. -/
def readAttribute (cs : List Char) : (String × Option String) × List Char :=
  let inName (c : Char) : Bool := !isBlank c && c != '/' && c != '>' && c != '='
  let (name, rest) := match cs with
    | c :: cs => (c :: cs.takeWhile inName, cs.dropWhile inName)
    | [] => ([], [])
  match rest.dropWhile isBlank with
  | '=' :: rest =>
    let (value, rest) := attributeValue (rest.dropWhile isBlank)
    ((lowered name, some (String.ofList (resolveReferences true value))), rest)
  | _ => ((lowered name, none), rest)

/-- The attributes of a tag up to its end, whether a slash ends it, and the rest. Of two
attributes with one name the first counts. -/
def attributesFrom : Nat → List (String × Option String) → List Char →
    List (String × Option String) × Bool × List Char
  | 0, found, cs => (found, false, cs)
  | fuel + 1, found, cs =>
    match cs.dropWhile isBlank with
    | [] => (found, false, [])
    | '>' :: rest => (found, false, rest)
    | '/' :: '>' :: rest => (found, true, rest)
    | '/' :: rest => attributesFrom fuel found rest
    | c :: rest =>
      let (a, rest) := readAttribute (c :: rest)
      attributesFrom fuel (if (found.lookup a.1).isSome then found else found ++ [a]) rest

def attributes (cs : List Char) : List (String × Option String) × Bool × List Char :=
  attributesFrom (cs.length + 1) [] cs

def inTagName (c : Char) : Bool := !isBlank c && c != '/' && c != '>'

/-- A comment after its mark, and the rest. -/
def commentBody (cs : List Char) : List Char × List Char :=
  match cs with
  | '>' :: rest => ([], rest)
  | '-' :: '>' :: rest => ([], rest)
  | _ => before "-->".toList cs

/-- A start tag whose first character has been seen, what its element holds when it holds no marks,
and the rest. -/
def startTag (cs : List Char) : List Token × List Char :=
  let name := lowered (cs.takeWhile inTagName)
  let (found, closed, rest) := attributes (cs.dropWhile inTagName)
  let tag := Token.start name found closed
  if closed then ([tag], rest)
  else match insideOf name with
    | .marks => ([tag], rest)
    | .references =>
      let (front, rest) := upToEnd name rest
      ([tag, .raw (resolveReferences false front)], rest)
    | .nothing =>
      let (front, rest) := upToEnd name rest
      ([tag, .raw front], rest)

/-- What begins with an angle bracket, if it is a mark, and the rest. -/
def mark? (cs : List Char) : Option (List Token × List Char) :=
  match cs with
  | '/' :: [] => none
  | '/' :: '>' :: rest => some ([], rest)
  | '/' :: c :: rest =>
    if c.isAlpha then
      let (_, _, after) := attributes ((c :: rest).dropWhile inTagName)
      some ([.stop (lowered ((c :: rest).takeWhile inTagName))], after)
    else
      let (s, rest) := before ['>'] (c :: rest)
      some ([.comment (String.ofList s)], rest)
  | '!' :: '-' :: '-' :: rest =>
    let (s, rest) := commentBody rest
    some ([.comment (String.ofList s)], rest)
  | '!' :: rest =>
    let (s, after) := before ['>'] rest
    some (if beginsWith "doctype" rest then [] else [.comment (String.ofList s)], after)
  | '?' :: rest =>
    let (s, rest) := before ['>'] rest
    some ([.comment (String.ofList ('?' :: s))], rest)
  | c :: rest => if c.isAlpha then some (startTag (c :: rest)) else none
  | [] => none

/-- Text that is not yet told, as a token. -/
def textToken (held : List Char) : List Token :=
  if held.isEmpty then [] else [.text (resolveReferences false held)]

def tokensFrom : Nat → List Char → List Char → List Token
  | 0, held, _ => textToken held
  | _, held, [] => textToken held
  | fuel + 1, held, '<' :: cs =>
    match mark? cs with
    | some (ts, rest) => textToken held ++ ts ++ tokensFrom fuel [] rest
    | none => tokensFrom fuel (held ++ ['<']) cs
  | fuel + 1, held, cs =>
    let isText (c : Char) := c != '<'
    tokensFrom fuel (held ++ cs.takeWhile isText) (cs.dropWhile isText)

/-- The tokens of a page. -/
def tokens (cs : List Char) : List Token := tokensFrom (2 * cs.length + 1) [] cs

end QueryBinding.Markup.Html
