-- Texts in upper and in lower case.
import QueryBinding.Text.CaseTable

namespace QueryBinding.Text

/-- The first run that moves a character decides. -/
def caseMove? (runs : Array CaseRun) (c : Char) : Option Char := runs.findSome? (·.move? c)

def upperChar (c : Char) : List Char :=
  if c.toNat < 128 then [c.toUpper]
  else match upperSpecials.find? (·.1 == c) with
    | some (_, cs) => cs
    | none => [(caseMove? upperRuns c).getD c]

def lowerChar (c : Char) : List Char :=
  if c.toNat < 128 then [c.toLower]
  else if c == '\u0130' then ['i', '\u0307']
  else [(caseMove? lowerRuns c).getD c]

/-- Whether the nearest character that is no mark is a letter with a case. -/
def meetsLetter (cs : List Char) : Bool :=
  match cs.dropWhile caseTransparent.holds with
  | [] => false
  | c :: _ => casedLetters.holds c

/-- Lower case, with the characters already passed in reverse: a capital sigma that ends a
word becomes a final sigma. -/
def lowerFrom (before : List Char) : List Char → List Char
  | [] => []
  | c :: cs =>
    (if c == '\u03a3' then
      if meetsLetter before && !meetsLetter cs then ['\u03c2'] else ['\u03c3']
    else lowerChar c) ++ lowerFrom (c :: before) cs

def upper (cs : List Char) : List Char := cs.flatMap upperChar

def lower (cs : List Char) : List Char := lowerFrom [] cs

def upperString (s : String) : String := String.ofList (upper s.toList)

def lowerString (s : String) : String := String.ofList (lower s.toList)

/-- Lower case of the ASCII letters only. -/
def lowerAscii (s : String) : String := s.map Char.toLower

end QueryBinding.Text
