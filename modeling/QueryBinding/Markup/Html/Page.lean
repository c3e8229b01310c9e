-- The tree of a page. Elements that a page leaves out are put in where they
-- have to be, and elements that it leaves open are closed where they must end.
import QueryBinding.Fault
import QueryBinding.Markup.Character
import QueryBinding.Markup.Html.Element
import QueryBinding.Markup.Html.Token
import QueryBinding.Markup.Tree
import QueryBinding.Text.Blank

namespace QueryBinding.Markup.Html

abbrev PageTree := Tree Tag

/-- An element that is open, with its children so far, the last one first. -/
structure Frame where
  tag : Tag
  children : List PageTree

namespace Frame

def name (f : Frame) : String := f.tag.name.loc

def tree (f : Frame) : PageTree := .element f.tag f.children.reverse

end Frame

/-- How far a page has come. -/
inductive Phase where
  | start
  | head
  | body
  deriving Repr, DecidableEq

/-- A page that is being put together. -/
structure State where
  /-- The open elements, the innermost first. -/
  frames : List Frame
  /-- What stands outside of all elements, the last one first. -/
  done : List PageTree
  phase : Phase
  /-- How many tags were passed over, whose ends are to be passed over too. -/
  passed : Nat

namespace State

/-- Adds to children in reverse; neighbouring texts become one. -/
def addTo (t : PageTree) : List PageTree → List PageTree
  | [] => [t]
  | last :: rest =>
    match t, last with
    | .leaf (.text s), .leaf (.text before) => .leaf (.text (before ++ s)) :: rest
    | _, _ => t :: last :: rest

/-- Adds a tree to the innermost open element, or to the page. -/
def add (st : State) (t : PageTree) : State :=
  match st.frames with
  | [] => { st with done := addTo t st.done }
  | f :: fs => { st with frames := { f with children := addTo t f.children } :: fs }

def current? (st : State) : Option String := st.frames.head?.map Frame.name

def isOpen (st : State) (name : String) : Bool := st.frames.any (·.name == name)

def labelled (owner name : String) (value : Option String) : Attribute :=
  ⟨.plain name, value.getD (if isSwitch name then name else ""),
    name == "id" || (owner == "a" && name == "name")⟩

/-- Opens an element. -/
def push (st : State) (name : String) (attributes : List (String × Option String)) : State :=
  let tag : Tag := ⟨.plain name, [], attributes.map fun (n, v) => labelled name n v⟩
  let phase :=
    if name == "body" then .body
    else if name == "head" && st.phase == .start then .head
    else st.phase
  { st with frames := ⟨tag, []⟩ :: st.frames, phase := phase }

/-- Closes the innermost element. -/
def pop (st : State) : State :=
  match st.frames with
  | [] => st
  | f :: fs => { st with frames := fs }.add f.tree

/-- Closes the innermost elements that satisfy a condition, one after the other. -/
def popWhile (p : String → Bool) : Nat → State → State
  | 0, st => st
  | fuel + 1, st =>
    match st.current? with
    | some name => if p name then popWhile p fuel st.pop else st
    | none => st

/-- Closes what is over when an element begins. -/
def closeFor (st : State) (name : String) : State := popWhile (ends name) st.frames.length st

/-- Opens what an element has to stand in. -/
def openFor (st : State) (name : String) : State :=
  if name == "html" then st
  else
    let st := if st.frames.isEmpty then st.push "html" [] else st
    if name == "body" || name == "head" then st
    else if st.frames.length ≤ 1 && isHeadOnly name then
      if st.phase == .start then st.push "head" [] else st
    else if isFrame name then st
    else if st.phase == .body || st.isOpen "body" || st.isOpen "head" then st
    else st.push "body" []

/-- Whether text has no place where the page is, but has to be put into a paragraph. -/
def isOutside (st : State) : Bool :=
  match st.current? with
  | none => true
  | some name => name == "html" || name == "head"

/-- Opens a paragraph for text where there is no place for it. -/
def openForText (st : State) : State :=
  let st := if st.current? == some "head" then st.closeFor "p" else st
  if st.isOutside then ((st.closeFor "p").openFor "p").push "p" [] else st

def addText (st : State) (cs : List Char) : State :=
  if cs.isEmpty || st.frames.isEmpty then st else st.add (.leaf (.text (String.ofList cs)))

/-- Adds text. Blanks in front of it may stand where other text may not. -/
def text (st : State) (cs : List Char) : State :=
  if st.isOutside then
    let st := st.addText (cs.takeWhile isBlank)
    let rest := cs.dropWhile isBlank
    if rest.isEmpty then st else st.openForText.addText rest
  else st.addText cs

/-- Whether a tag is out of place: a second root or body, or a head that is not the first. -/
def isMisplaced (st : State) (name : String) : Bool :=
  (name == "html" && !st.frames.isEmpty) || (name == "head" && st.frames.length != 1) ||
    (name == "body" && st.isOpen "body")

def enter (st : State) (name : String) (attributes : List (String × Option String))
    (closed : Bool) : State :=
  let st := (st.closeFor name).openFor name
  if st.isMisplaced name then { st with passed := st.passed + 1 }
  else
    let st := st.push name attributes
    if closed || isVoid name then st.pop else st

/-- Whether the end of an element reaches one that is open. -/
def reaches (name : String) : List Frame → Bool
  | [] => false
  | f :: fs => f.name == name || (weight f.name ≤ weight name && reaches name fs)

def leave (st : State) (name : String) : State :=
  if 0 < st.passed && ["html", "body", "head"].contains name then
    { st with passed := st.passed - 1 }
  else if reaches name st.frames then (popWhile (· != name) st.frames.length st).pop
  else st

def step (st : State) : Token → State
  | .start name attributes closed => st.enter name attributes closed
  | .stop name => st.leave name
  | .text cs => st.text cs
  | .raw cs => st.addText cs
  | .comment s => st.add (.leaf (.comment s))

/-- Closes everything. -/
def close (st : State) : List PageTree :=
  (popWhile (fun _ => true) st.frames.length st).done.reverse

end State

/-- The trees of a page, the root among them unless the page is empty. -/
def page (cs : List Char) : List PageTree :=
  ((tokens (unifyLines cs)).foldl State.step ⟨[], [], .start, 0⟩).close

/-! ## Pages and parts of pages -/

def isElement : PageTree → Bool
  | .element .. => true
  | .leaf _ => false

def isNamed (name : String) : PageTree → Bool
  | .element tag _ => tag.name.loc == name
  | .leaf _ => false

/-- Whether a text says that it is a page and no part of one. -/
def isFull (cs : List Char) : Bool :=
  match cs.dropWhile Text.isBlank with
  | '<' :: rest => beginsWith "html" rest || beginsWith "!doctype" rest
  | _ => false

mutual

def hasBlock : PageTree → Bool
  | .leaf _ => false
  | .element tag children => isBlock tag.name.loc || hasBlockAmong children

def hasBlockAmong : List PageTree → Bool
  | [] => false
  | t :: ts => hasBlock t || hasBlockAmong ts

end

/-- Whether a tree is blank text. -/
def isBlankText : PageTree → Bool
  | .leaf (.text s) => s.toList.all Text.isBlank
  | _ => false

/-- The body of a part of a page stands for the part, unless the part is a single element. -/
def partBody : PageTree → PageTree
  | .leaf l => .leaf l
  | .element tag children =>
    let isText : PageTree → Bool
      | .leaf (.text _) => true
      | _ => false
    let single :=
      (children.filter (!isText ·)).length == 1 && (children.filter isText).all isBlankText
    if single then .element tag children
    else
      let name := if hasBlockAmong children then "div" else "span"
      .element { tag with name := .plain name } children

/-- The root of a part of a page, which must have one body. -/
def partRoot (shown : String) : PageTree → Except Fault PageTree
  | .leaf l => .ok (.leaf l)
  | .element tag children =>
    if (children.filter (isNamed "body")).length != 1 then .error (.bodiless shown)
    else if children.any (isNamed "head") then .ok (.element tag children)
    else .ok (.element tag (children.map fun t => if isNamed "body" t then partBody t else t))

/-- Whether a text goes on with an encoding in quotes, after a gap. -/
def givesEncoding (cs : List Char) : Bool :=
  let isQuote (c : Char) : Bool := c == '"' || c == '\''
  let word := "encoding".toList
  let after := cs.dropWhile Text.isBlank
  cs.head?.any Text.isBlank && word.isPrefixOf after &&
    match (after.drop word.length).dropWhile Text.isBlank with
    | '=' :: rest =>
      match rest.dropWhile Text.isBlank with
      | q :: rest => isQuote q && rest.any isQuote
      | [] => false
    | _ => false

/-- Whether an encoding is given before the first closing bracket. -/
def givesEncodingLater : List Char → Bool
  | [] => false
  | c :: cs => c != '>' && (givesEncoding cs || givesEncodingLater cs)

/-- Whether a text, which needs no encoding any more, declares one. -/
def declaresEncoding (cs : List Char) : Bool :=
  let mark := "<?xml".toList
  mark.isPrefixOf cs && givesEncodingLater (cs.drop mark.length)

/-- Reads a page, or a part of a page, from its characters. -/
def ofCharacters (cs : List Char) : Except Fault (List PageTree) := do
  if declaresEncoding cs then throw .encodedText
  let trees := page cs
  unless trees.any isElement do throw .emptyMarkup
  if isFull cs then return trees
  trees.mapM fun t =>
    if isElement t then partRoot (Text.quoteString (String.ofList cs)) t else .ok t

end QueryBinding.Markup.Html
