-- Well-formed markup: every element is closed by its own name, and what the
-- document needs it declares itself. Reading ends at the first violation.
import QueryBinding.Markup.Encoding
import QueryBinding.Markup.Tree

namespace QueryBinding.Markup.Xml

abbrev Step := Reader Fault

/-- The end of reading. -/
def refuse {α : Type} : Step α := throw .malformedMarkup

def expect (mark : String) : Step Unit := Reader.demand .malformedMarkup mark

/-- How deep elements may be nested, the root counted. -/
def depthLimit : Nat := 256

/-- How deep entities may refer to each other. -/
def entityLimit : Nat := 40

/-- What a declared name stands for in text. -/
inductive Entity where
  | replaced (content : List Char)
  /-- Its content is outside the document. -/
  | outside
  /-- It is no text. -/
  | unparsed
  deriving Repr, DecidableEq

structure Definitions where
  entities : List (String × Entity)
  /-- Texts that may be put between definitions. -/
  inserts : List (String × List Char)
  /-- Whether there may be further definitions that are not read. -/
  incomplete : Bool
  deriving Repr, DecidableEq

/-- An element as it is written, before its names are looked up. -/
structure RawTag where
  name : String
  attributes : List (String × String)
  deriving Repr, DecidableEq, Inhabited

abbrev RawTree := Tree RawTag

/-! ## Small parts -/

def skipSpace : Step Unit := do
  let _ ← Reader.span isSpace

def someSpace : Step Unit := do
  if (← Reader.span isSpace).isEmpty then refuse

/-- A name, colons included. -/
def name : Step String := do
  match ← Reader.ahead with
  | [] => refuse
  | c :: _ =>
    unless isNameStart c || c == ':' do refuse
    return String.ofList (← Reader.span fun c => isNamePart c || c == ':')

def allowed (cs : List Char) : Step (List Char) :=
  if cs.all isAllowed then return cs else refuse

/-- The text between quotes of either kind. -/
def quoted : Step (List Char) := do
  if ← Reader.accept "\"" then allowed (← Reader.upTo .malformedMarkup "\"")
  else
    expect "'"
    allowed (← Reader.upTo .malformedMarkup "'")

def hexValue (cs : List Char) : Nat :=
  cs.foldl (fun n c =>
    16 * n + (if c.isDigit then c.toNat - 48 else c.toLower.toNat - 87)) 0

def isHex (c : Char) : Bool := c.isDigit || ('a' ≤ c.toLower && c.toLower ≤ 'f')

/-- The rest of a reference by number, after its mark. -/
def numbered : Step Char := do
  let value ←
    if ← Reader.accept "x" then do
      let ds ← Reader.span isHex
      if ds.isEmpty then refuse else pure (hexValue ds)
    else do
      let ds ← Reader.span Char.isDigit
      if ds.isEmpty then refuse
      else pure (hexValue [] + ds.foldl (fun n c => 10 * n + (c.toNat - 48)) 0)
  expect ";"
  match charOf? value with
  | some c => return c
  | none => refuse

def predefined : List (String × Char) :=
  [("lt", '<'), ("gt", '>'), ("amp", '&'), ("apos", '\''), ("quot", '"')]

/-- A reference: to a character, or to a name that has to be looked up. -/
inductive Reference where
  | character (c : Char)
  | entity (name : String)

def reference : Step Reference := do
  expect "&"
  if ← Reader.accept "#" then return .character (← numbered)
  let n ← name
  expect ";"
  match predefined.lookup n with
  | some c => return .character c
  | none => return .entity n

/-! ## Attributes -/

/-- Puts the content of entities into the value of an attribute. -/
def attributeValue (defs : Definitions) : Nat → List Char → Except Fault (List Char)
  | 0, _ => .error .malformedMarkup
  | fuel + 1, cs => do
    let piece : Step (Option (List Char)) := do
      match ← Reader.ahead with
      | [] => return none
      | '<' :: _ => refuse
      | '&' :: _ =>
        match ← reference with
        | .character c => return some [c]
        | .entity n =>
          match defs.entities.lookup n with
          | some (.replaced content) => return some (← attributeValue defs fuel content)
          | some _ => refuse
          | none => if defs.incomplete then return some [] else refuse
      | c :: _ =>
        Reader.drop 1
        return some [if isSpace c then ' ' else c]
    return (← Reader.whole .malformedMarkup (Reader.many piece) cs).flatten

/-- An attribute after the space that sets it apart, or the end of the tag. -/
def attribute? (defs : Definitions) : Step (Option (String × String)) := do
  let gap ← Reader.span isSpace
  if (← Reader.sees ">") || (← Reader.sees "/>") then return none
  if gap.isEmpty then refuse
  let n ← name
  skipSpace
  expect "="
  skipSpace
  let value ← attributeValue defs entityLimit (← quoted)
  return some (n, String.ofList value)

/-! ## Content -/

/-- The rest of a comment after its mark, in which no two dashes follow each other. -/
def comment : Step Leaf := do
  let cs ← allowed (← Reader.upTo .malformedMarkup "--")
  expect ">"
  return .comment (String.ofList cs)

/-- The rest of an instruction after its mark. -/
def instruction : Step Leaf := do
  let target ← name
  if target.contains ':' || target.map Char.toLower == "xml" then refuse
  if ← Reader.accept "?>" then return .instruction target ""
  someSpace
  return .instruction target (String.ofList (← allowed (← Reader.upTo .malformedMarkup "?>")))

/-- Characters that are just text. -/
def plainText : Step (List Char) := do
  let cs ← allowed (← Reader.span fun c => c != '<' && c != '&')
  if (Reader.cutAt? "]]>".toList cs).isSome then refuse
  return cs

/-- What comes next inside an element, if it is not the end of it. -/
def piece? (defs : Definitions) (meaning : List Char → Except Fault String)
    (element : Step RawTree) : Step (Option (Piece RawTag)) := do
  match ← Reader.ahead with
  | [] => return none
  | '<' :: '/' :: _ => return none
  | '<' :: '?' :: _ =>
    Reader.drop 2
    return some (.tree (.leaf (← instruction)))
  | '<' :: _ =>
    if ← Reader.accept "<!--" then return some (.tree (.leaf (← comment)))
    if ← Reader.accept "<![CDATA[" then
      return some (.characters (← allowed (← Reader.upTo .malformedMarkup "]]>")))
    return some (.tree (← element))
  | '&' :: _ =>
    match ← reference with
    | .character c => return some (.characters [c])
    | .entity n =>
      match defs.entities.lookup n with
      | some (.replaced content) => return some (.tree (.leaf (.reference n (← meaning content))))
      | some .outside => return some (.tree (.leaf (.reference n "")))
      | some .unparsed => refuse
      | none => if defs.incomplete then return some (.tree (.leaf (.reference n ""))) else refuse
  | _ => return some (.characters (← plainText))

def content (defs : Definitions) (meaning : List Char → Except Fault String)
    (element : Step RawTree) : Step (List RawTree) := do
  return Piece.gather (← Reader.many (piece? defs meaning element))

/-- An element with at most so many elements nested in each other. -/
def element (defs : Definitions) (meaning : List Char → Except Fault String) : Nat → Step RawTree
  | 0 => refuse
  | depth + 1 => do
    expect "<"
    let n ← name
    let attributes ← Reader.many (attribute? defs)
    if ← Reader.accept "/>" then return .element ⟨n, attributes⟩ []
    expect ">"
    let children ← content defs meaning (element defs meaning depth)
    expect "</"
    unless (← name) == n do refuse
    skipSpace
    expect ">"
    return .element ⟨n, attributes⟩ children

/-- The text that the content of an entity stands for; entities may be nested so deep. -/
def meaningOf (defs : Definitions) : Nat → List Char → Except Fault String
  | 0, _ => .error .malformedMarkup
  | fuel + 1, cs => do
    let inner := meaningOf defs fuel
    let trees ← Reader.whole .malformedMarkup
      (content defs inner (element defs inner depthLimit)) cs
    return Tree.meantText trees

/-! ## Definitions -/

/-- The value of an entity: references by number are resolved, other references are kept. -/
def entityValue (cs : List Char) : Except Fault (List Char) := do
  let piece : Step (Option (List Char)) := do
    match ← Reader.ahead with
    | [] => return none
    | '%' :: _ => refuse
    | '&' :: '#' :: _ =>
      Reader.drop 2
      return some [← numbered]
    | '&' :: _ =>
      Reader.drop 1
      let n ← name
      expect ";"
      return some ('&' :: n.toList ++ [';'])
    | c :: _ =>
      Reader.drop 1
      return some [c]
  return (← Reader.whole .malformedMarkup (Reader.many piece) cs).flatten

/-- The place of a text outside the document, if one is given. -/
def outside : Step Bool := do
  if ← Reader.accept "SYSTEM" then
    someSpace
    let _ ← quoted
    return true
  if ← Reader.accept "PUBLIC" then
    someSpace
    let _ ← quoted
    someSpace
    let _ ← quoted
    return true
  return false

/-- The rest of the definition of an entity, and whether it is for definitions only, as the percent
sign says. -/
def entity : Step (Bool × String × Entity) := do
  someSpace
  let internal ← Reader.accept "%"
  if internal then someSpace
  let n ← name
  if n.contains ':' then refuse
  someSpace
  let found ←
    if ← outside then do
      let gap ← Reader.span isSpace
      if !gap.isEmpty && !internal && (← Reader.accept "NDATA") then do
        someSpace
        let _ ← name
        pure Entity.unparsed
      else pure Entity.outside
    else do
      let value ← entityValue (← quoted)
      pure (Entity.replaced value)
  skipSpace
  expect ">"
  return (internal, n, found)

/-- The rest of another definition, in which a bracket may stand between quotes. -/
def otherDefinition : Step Unit := do
  let part : Step (Option Unit) := do
    match ← Reader.ahead with
    | [] => refuse
    | '>' :: _ => return none
    | '<' :: _ => refuse
    | '"' :: _ => do let _ ← quoted; return some ()
    | '\'' :: _ => do let _ ← quoted; return some ()
    | c :: _ =>
      unless isAllowed c do refuse
      Reader.drop 1
      return some ()
  let _ ← Reader.many part
  expect ">"

/-- Adds an entity. The first definition of a name counts. -/
def Definitions.define (defs : Definitions) : Bool × String × Entity → Definitions
  | (false, n, e) =>
    if (defs.entities.lookup n).isSome then defs
    else { defs with entities := defs.entities ++ [(n, e)] }
  | (true, n, .replaced cs) => { defs with inserts := defs.inserts ++ [(n, cs)] }
  | (true, _, _) => defs

/-- The next definition. -/
def definition? (defs : Definitions) : Step (Option Definitions) := do
  skipSpace
  match ← Reader.ahead with
  | ']' :: _ => return none
  | '%' :: _ =>
    Reader.drop 1
    let n ← name
    expect ";"
    modify ((defs.inserts.lookup n).getD [] ++ ·)
    return some { defs with incomplete := true }
  | _ =>
    if ← Reader.accept "<!--" then
      let _ ← comment
      return some defs
    if ← Reader.accept "<?" then
      let _ ← instruction
      return some defs
    if ← Reader.accept "<!ENTITY" then
      return some (defs.define (← entity))
    if (← Reader.accept "<!ELEMENT") || (← Reader.accept "<!ATTLIST") ||
        (← Reader.accept "<!NOTATION") then
      someSpace
      otherDefinition
      return some defs
    refuse

/-- The rest of a document type after its mark. -/
def documentType : Step Definitions := do
  someSpace
  let _ ← name
  let gap ← Reader.span isSpace
  let elsewhere ← if gap.isEmpty then pure false else outside
  skipSpace
  let start : Definitions := ⟨[], [], elsewhere⟩
  let defs ←
    if ← Reader.accept "[" then do
      let defs ← Reader.chain definition? start
      expect "]"
      skipSpace
      pure defs
    else pure start
  expect ">"
  return defs

/-! ## Documents -/

/-- A comment or an instruction outside of the root. -/
def aside? : Step (Option RawTree) := do
  skipSpace
  if ← Reader.accept "<!--" then return some (.leaf (← comment))
  if ← Reader.accept "<?" then return some (.leaf (← instruction))
  return none

def document : Step (List RawTree) := do
  let declaration ← Declaration.read
  let before ← Reader.many aside?
  let (defs, between) ←
    if ← Reader.accept "<!DOCTYPE" then do
      let defs ← documentType
      pure (defs, ← Reader.many aside?)
    else pure (⟨[], [], false⟩, [])
  let defs := if declaration.any (·.alone) then { defs with incomplete := false } else defs
  let root ← element defs (meaningOf defs entityLimit) depthLimit
  let after ← Reader.many aside?
  return before ++ between ++ root :: after

/-! ## Namespaces -/

def xmlSpace : String := "http://www.w3.org/XML/1998/namespace"

def bindingSpace : String := "http://www.w3.org/2000/xmlns/"

/-- The namespaces in reach, the nearest first. -/
abbrev Scope := List Binding

def Scope.find? (scope : Scope) (part : Option String) : Option String :=
  (List.find? (fun b : Binding => b.part == part) scope).map (·.space)

/-- The part that a declaration is for, if an attribute is one. -/
def declares? (name : String) : Option (Option String) :=
  if name == "xmlns" then some none
  else if name.startsWith "xmlns:" then some (some (name.drop 6).toString)
  else none

/-- A declaration. Prefixes cannot be taken back, and the two reserved ones cannot be moved. -/
def binding (part : Option String) (space : String) : Except Fault (List Binding) :=
  match part with
  | some "xmlns" => .error .malformedMarkup
  | some "xml" => if space == xmlSpace then .ok [] else .error .malformedMarkup
  | some p =>
    if space == "" || space == xmlSpace || space == bindingSpace || p.contains ':' || p == "" then
      .error .malformedMarkup
    else .ok [⟨some p, space⟩]
  | none =>
    if space == xmlSpace || space == bindingSpace then .error .malformedMarkup
    else .ok [⟨none, space⟩]

/-- The name of an element or an attribute. Only elements without a prefix are in the namespace
declared for names without one. -/
def resolveName (scope : Scope) (isElement : Bool) (written : String) : Except Fault Name :=
  match splitName? written with
  | none => .error .malformedMarkup
  | some (none, loc) =>
    let space := if isElement then (scope.find? none).filter (· != "") else none
    .ok ⟨none, space, loc⟩
  | some (some part, loc) =>
    match scope.find? (some part) with
    | some space => .ok ⟨some part, some space, loc⟩
    | none => .error .malformedMarkup

/-- Whether no two attributes are the same. -/
def distinct : List Attribute → Bool
  | [] => true
  | a :: rest =>
    rest.all (fun b => b.name.loc != a.name.loc || b.name.space != a.name.space) && distinct rest

/-- An element with its names looked up, and the namespaces in reach below it. -/
def resolveTag (scope : Scope) (raw : RawTag) : Except Fault (Tag × Scope) := do
  unless (raw.attributes.map (·.1)).eraseDups.length == raw.attributes.length do
    throw .malformedMarkup
  let mut declared : List Binding := []
  for (n, value) in raw.attributes do
    match declares? n with
    | some part => declared := declared ++ (← binding part value)
    | none => pure ()
  let scope := declared.reverse ++ scope
  let attributes ← (raw.attributes.filter fun a => (declares? a.1).isNone).mapM fun (n, value) => do
    let found ← resolveName scope false n
    return (⟨found, value, found.space == some xmlSpace && found.loc == "id"⟩ : Attribute)
  unless distinct attributes do throw .malformedMarkup
  return (⟨← resolveName scope true raw.name, declared, attributes⟩, scope)

mutual

def resolve (scope : Scope) : RawTree → Except Fault (Tree Tag)
  | .leaf l => .ok (.leaf l)
  | .element raw children => do
    let (tag, scope) ← resolveTag scope raw
    return .element tag (← resolveAll scope children)

def resolveAll (scope : Scope) : List RawTree → Except Fault (List (Tree Tag))
  | [] => .ok []
  | t :: ts => do return (← resolve scope t) :: (← resolveAll scope ts)

end

/-- Reads a document from its characters. -/
def ofCharacters (cs : List Char) : Except Fault (List (Tree Tag)) := do
  let trees ← Reader.whole .malformedMarkup document (unifyLines cs)
  resolveAll [⟨some "xml", xmlSpace⟩] trees

/-- Reads a document from its bytes. -/
def ofBytes (bs : List UInt8) : Except Fault (List (Tree Tag)) := do ofCharacters (← decode bs)

end QueryBinding.Markup.Xml
