-- Files of variables: one binding per line, with quotes, comments and
-- references to other variables. A line that is no binding is skipped.
import QueryBinding.Keyed
import QueryBinding.Text.Blank

namespace QueryBinding.DotEnv

open Text

/-! ## Lexical parts -/

def isBreak (c : Char) : Bool := c == '\n' || c == '\r'

/-- A blank inside a line. -/
def isGap (c : Char) : Bool := isBlank c && !isBreak c

/-- Line ends of every system as a single line feed. -/
def unifyBreaks : List Char → List Char
  | [] => []
  | ['\r'] => ['\n']
  | '\r' :: c :: cs => if c == '\n' then '\n' :: unifyBreaks cs else '\n' :: unifyBreaks (c :: cs)
  | c :: cs => c :: unifyBreaks cs

/-- A line without its end, and what follows. -/
def restOfLine (cs : List Char) : List Char := (cs.dropWhile (!isBreak ·)).drop 1

/-- What follows a comment, if one is there. -/
def skipComment (cs : List Char) : List Char :=
  match cs.dropWhile isGap with
  | '#' :: rest => rest.dropWhile (!isBreak ·)
  | _ => cs

/-- What follows the end of the line, if only blanks come before it. -/
def endOfLine? (cs : List Char) : Option (List Char) :=
  match cs.dropWhile isGap with
  | [] => some []
  | c :: rest => if isBreak c then some rest else none

/-! ## Keys and values -/

/-- Skips the word that marks a variable for export. -/
def skipExport (cs : List Char) : List Char :=
  match cs with
  | 'e' :: 'x' :: 'p' :: 'o' :: 'r' :: 't' :: c :: rest =>
    if isGap c then rest.dropWhile isGap else cs
  | _ => cs

/-- Text up to a closing quote, escapes kept. With no closing quote, the last escaped quote closes
after all. -/
def quotedRun (quote : Char) : List Char → Option (List Char × List Char)
  | [] => none
  | c :: cs =>
    if c == quote then some ([], cs)
    else if c == '\\' && cs.head? == some quote then
      match quotedRun quote (cs.drop 1) with
      | some (text, rest) => some (c :: quote :: text, rest)
      | none => some ([c], cs.drop 1)
    else (quotedRun quote cs).map fun (text, rest) => (c :: text, rest)
termination_by cs => cs.length
decreasing_by all_goals (simp; try omega)

/-- The character that an escape stands for inside quotes. -/
def escaped? (quote c : Char) : Option Char :=
  if c == '\\' || c == '\'' then some c
  else if quote == '"' then
    match c with
    | '"' => some '"'
    | 'a' => some '\x07'
    | 'b' => some '\x08'
    | 'f' => some '\x0c'
    | 'n' => some '\n'
    | 'r' => some '\r'
    | 't' => some '\t'
    | 'v' => some '\x0b'
    | _ => none
  else none

def unescape (quote : Char) : List Char → List Char
  | '\\' :: c :: cs =>
    match escaped? quote c with
    | some d => d :: unescape quote cs
    | none => '\\' :: unescape quote (c :: cs)
  | c :: cs => c :: unescape quote cs
  | [] => []

/-- A value without quotes ends before a comment that blanks set apart. -/
def cutComment : List Char → List Char
  | [] => []
  | c :: cs =>
    if isBlank c && (cs.dropWhile isBlank).head? == some '#' then [] else c :: cutComment cs

def keyOf? (cs : List Char) : Option (Option (List Char) × List Char) :=
  match cs with
  | '#' :: _ => some (none, cs)
  | '\'' :: rest =>
    let key := rest.takeWhile (· != '\'')
    match rest.dropWhile (· != '\'') with
    | _ :: after => if key.isEmpty then none else some (some key, after)
    | [] => none
  | _ =>
    let isKey (c : Char) : Bool := c != '=' && c != '#' && !isBlank c
    let key := cs.takeWhile isKey
    if key.isEmpty then none else some (some key, cs.dropWhile isKey)

def valueOf? (cs : List Char) : Option (List Char × List Char) :=
  match cs with
  | [] => some ([], [])
  | c :: rest =>
    if c == '\'' || c == '"' then
      (quotedRun c rest).map fun (text, after) => (unescape c text, after)
    else if isBreak c then some ([], cs)
    else some (stripRight (cutComment (cs.takeWhile (!isBreak ·))), cs.dropWhile (!isBreak ·))

/-! ## Bindings -/

/-- A variable and its value, if it has one. -/
structure Binding where
  key : String
  value : Option (List Char)

/-- What one line gives, and where reading stopped when it is no binding. -/
def lineOf (cs : List Char) : Option Binding × List Char :=
  match keyOf? (skipExport cs) with
  | none => (none, restOfLine (skipExport cs))
  | some (key, rest) =>
    let rest := rest.dropWhile isGap
    match rest with
    | '=' :: after =>
      let after := after.dropWhile isGap
      match valueOf? after with
      | none => (none, restOfLine after)
      | some (value, rest) => finish key (some value) rest
    | _ => finish key none rest
where
  finish (key : Option (List Char)) (value : Option (List Char)) (rest : List Char) :
      Option Binding × List Char :=
    let rest := skipComment rest
    match endOfLine? rest with
    | some after => (key.map fun k => ⟨String.ofList k, value⟩, after)
    | none => (none, restOfLine rest)

/-- Reads line after line; `fuel` bounds their number. -/
def bindingsFrom : Nat → List Char → List Binding
  | 0, _ => []
  | fuel + 1, cs =>
    match cs.dropWhile isBlank with
    | [] => []
    | cs =>
      let (binding, rest) := lineOf cs
      binding.toList ++ bindingsFrom fuel rest

def bindings (cs : List Char) : List Binding := bindingsFrom (cs.length + 1) (unifyBreaks cs)

/-! ## References -/

/-- A piece of a value: text, or a reference with what stands for a missing variable. -/
inductive Piece where
  | text (c : Char)
  | reference (name : String) (fallback : List Char)

/-- A reference in braces behind a dollar sign, and what follows it. -/
def referenceOf? (cs : List Char) : Option (Piece × List Char) :=
  let isName (c : Char) : Bool := c != '\x7d' && c != ':'
  let name := String.ofList (cs.takeWhile isName)
  match cs.dropWhile isName with
  | '\x7d' :: rest => some (.reference name [], rest)
  | ':' :: '-' :: rest =>
    match rest.dropWhile (· != '\x7d') with
    | _ :: after => some (.reference name (rest.takeWhile (· != '\x7d')), after)
    | [] => none
  | _ => none

def piecesFrom : Nat → List Char → List Piece
  | 0, _ => []
  | _, [] => []
  | fuel + 1, c :: cs =>
    match c, cs with
    | '$', '\x7b' :: rest =>
      match referenceOf? rest with
      | some (piece, after) => piece :: piecesFrom fuel after
      | none => .text c :: piecesFrom fuel cs
    | _, _ => .text c :: piecesFrom fuel cs

/-- Variables that are set, perhaps to nothing. -/
abbrev Scope := List (String × Option String)

def resolvePiece (scope : Scope) : Piece → List Char
  | .text c => [c]
  | .reference name fallback =>
    match scope.lookup name with
    | some (some s) => s.toList
    | some none => []
    | none => fallback

def resolve (scope : Scope) (value : List Char) : String :=
  String.ofList ((piecesFrom (value.length + 1) value).flatMap (resolvePiece scope))

/-- The variables of a file, later ones seeing earlier ones and those of the environment. -/
def load (environment : List (String × String)) (cs : List Char) : Scope :=
  let outer : Scope := environment.map fun (k, v) => (k, some v)
  (bindings cs).foldl (fun set b =>
    Keyed.put b.key (b.value.map (resolve (set ++ outer))) set) []

end QueryBinding.DotEnv
