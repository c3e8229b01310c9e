-- The functions that queries can call.
import QueryBinding.Reader
import QueryBinding.Text.Blank
import QueryBinding.XPath.Result

namespace QueryBinding.XPath

open QueryBinding.Markup

/-- Where a part of a query is answered. -/
structure Context where
  place : Place
  /-- The position in the set that is being looked through, and its size. -/
  focus : Option (Nat × Nat)

/-! ## On texts -/

namespace Text

/-- The text before a mark and the text after it; nothing if the mark is not there. -/
def aroundOf (s mark : String) : String × String :=
  match Reader.cutAt? mark.toList s.toList with
  | some (before, after) => (String.ofList before, String.ofList after)
  | none => ("", "")

def contains (s part : String) : Bool := (Reader.cutAt? part.toList s.toList).isSome

/-- Words are separated by the blanks of markup. -/
def words (cs : List Char) : List (List Char) := go [] cs
where
  go (held : List Char) : List Char → List (List Char)
    | [] => if held.isEmpty then [] else [held]
    | c :: cs =>
      if isSpace c then (if held.isEmpty then go [] cs else held :: go [] cs)
      else go (held ++ [c]) cs

def normalized (s : String) : String :=
  String.ofList (QueryBinding.Text.joinWith [' '] (words s.toList))

/-- The largest position in a text. -/
def positionLimit : Nat := 2147483647

/-- The characters from a position on, or up to a length. Positions count from one, and both
numbers are rounded. -/
def slice (s : String) (start : Float) (length : Option Float) : String :=
  let first : Nat :=
    if !(start < 2147483647.0) then positionLimit
    else if start ≥ 1.0 then (Numeral.roundHalf start).toUInt64.toNat
    else 1
  let stop : Nat :=
    match length with
    | none => positionLimit
    | some length =>
      let stop := Numeral.roundHalf start + Numeral.roundHalf length
      if !(stop ≥ 1.0) then 1
      else if stop < 2147483647.0 then stop.toUInt64.toNat
      else positionLimit
  String.ofList ((s.toList.drop (first - 1)).take (stop - first))

/-- Each character that is in one text becomes the one at its place in another, if there is one. -/
def translated (s source target : String) : String :=
  String.ofList <| s.toList.filterMap fun c =>
    match source.toList.findIdx? (· == c) with
    | none => some c
    | some i => target.toList[i]?

end Text

/-! ## On nodes -/

/-- The language that a place is in, as the nearest element around it says. -/
def languageAt? (t : Table) (p : Place) : Option String :=
  let isLanguage (a : Attribute) := a.name.loc == "lang" && a.name.space == some xmlBinding.space
  ((p.owner :: t.ancestors p.owner).findSome? fun i => (attributesAt t i).find? isLanguage).map
    (·.value)

/-- A language covers its variants, which are set apart by a dash. -/
def covers (language actual : String) : Bool :=
  let wanted := language.toList.map Char.toUpper
  let found := actual.toList.map Char.toUpper
  wanted.isPrefixOf found && (found.drop wanted.length).head?.all (· == '-')

/-- The element that a name stands for in the whole document. -/
def identified? (t : Table) (key : String) : Option Place :=
  ((List.range t.size).find? fun i =>
    (attributesAt t i).any fun a => a.identifies && a.value == key).map .node

/-- The elements whose names stand in a result. -/
def identified (t : Table) (r : Result) : List Place :=
  let texts := match r with
    | .places ps => ps.map (textAt t)
    | r => [r.toText t]
  inOrder (texts.flatMap fun s =>
    (Text.words s.toList).filterMap fun w => identified? t (String.ofList w))

/-- Something about the name of the first place, and nothing where there is no name. -/
def nameText (t : Table) (f : Name → String) (ps : List Place) : String :=
  ((ps.head?.bind (nameAt? t)).map f).getD ""

/-! ## Calling -/

/-- The result that a function is about when it is called without arguments. -/
def self (context : Context) : Result := .places [context.place]

def onPlaces (f : List Place → Result) (r : Result) : Except Defect Result := return f (← r.places?)

/-- Calls a function with at most one argument, which is the place itself when it is not given. -/
def withSelf (context : Context) (f : Result → Except Defect Result) :
    List Result → Except Defect Result
  | [] => f (self context)
  | [r] => f r
  | _ => .error .wrongArity

def withOne (f : Result → Except Defect Result) : List Result → Except Defect Result
  | [r] => f r
  | _ => .error .wrongArity

def withTwo (f : Result → Result → Result) : List Result → Except Defect Result
  | [a, b] => .ok (f a b)
  | _ => .error .wrongArity

def constant (r : Except Defect Result) : List Result → Except Defect Result
  | [] => r
  | _ => .error .wrongArity

/-- The function of a name. -/
def function? (t : Table) (context : Context) (name : String) :
    Option (List Result → Except Defect Result) :=
  let text (r : Result) := r.toText t
  let number (r : Result) := r.toNumber t
  match name with
  | "position" => some <| constant <|
    match context.focus with
    | some (position, _) => .ok (.number (Float.ofNat position))
    | none => .error .noPosition
  | "last" => some <| constant <|
    match context.focus with
    | some (_, size) => .ok (.number (Float.ofNat size))
    | none => .error .noSize
  | "true" => some <| constant (.ok (.truth true))
  | "false" => some <| constant (.ok (.truth false))
  | "boolean" => some <| withOne fun r => .ok (.truth r.toTruth)
  | "not" => some <| withOne fun r => .ok (.truth !r.toTruth)
  | "number" => some <| withSelf context fun r => .ok (.number (number r))
  | "string" => some <| withSelf context fun r => .ok (.text (text r))
  | "string-length" => some <| withSelf context fun r =>
    .ok (.number (Float.ofNat (text r).length))
  | "normalize-space" => some <| withSelf context fun r => .ok (.text (Text.normalized (text r)))
  | "count" => some <| withOne <| onPlaces fun ps => .number (Float.ofNat ps.length)
  | "sum" => some <| withOne <| onPlaces fun ps =>
    .number (ps.foldl (fun x p => x + Numeral.ofText (textAt t p)) 0.0)
  | "floor" => some <| withOne fun r => .ok (.number (number r).floor)
  | "ceiling" => some <| withOne fun r => .ok (.number (number r).ceil)
  | "round" => some <| withOne fun r => .ok (.number (Numeral.round (number r)))
  | "name" => some <| withSelf context <| onPlaces fun ps => .text (nameText t Name.written ps)
  | "local-name" => some <| withSelf context <| onPlaces fun ps => .text (nameText t Name.loc ps)
  | "namespace-uri" => some <| withSelf context <| onPlaces fun ps =>
    .text (nameText t (fun n => n.space.getD "") ps)
  | "id" => some <| withOne fun r => .ok (.places (identified t r))
  | "lang" => some <| withOne fun r =>
    .ok (.truth ((languageAt? t context.place).any (covers (text r))))
  | "concat" => some fun rs =>
    if rs.length < 2 then .error .wrongArity else .ok (.text (String.join (rs.map text)))
  | "contains" => some <| withTwo fun a b => .truth (Text.contains (text a) (text b))
  | "starts-with" => some <| withTwo fun a b =>
    .truth ((text b).toList.isPrefixOf (text a).toList)
  | "substring-before" => some <| withTwo fun a b => .text (Text.aroundOf (text a) (text b)).1
  | "substring-after" => some <| withTwo fun a b => .text (Text.aroundOf (text a) (text b)).2
  | "substring" => some fun
    | [s, start] => .ok (.text (Text.slice (text s) (number start) none))
    | [s, start, length] => .ok (.text (Text.slice (text s) (number start) (some (number length))))
    | _ => .error .wrongArity
  | "translate" => some fun
    | [s, source, target] => .ok (.text (Text.translated (text s) (text source) (text target)))
    | _ => .error .wrongArity
  | _ => none

end QueryBinding.XPath
