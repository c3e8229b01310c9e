-- The characters of markup: which may stand in a document at all, and which
-- may stand in a name.

namespace QueryBinding.Markup

/-- A range of character numbers, both ends included. -/
abbrev Span := Nat × Nat

def inSpans (spans : List Span) (c : Char) : Bool :=
  spans.any fun (low, high) => low ≤ c.toNat && c.toNat ≤ high

def isSpace (c : Char) : Bool := c == ' ' || c == '\t' || c == '\n' || c == '\r'

/-- Whether a character may stand in a document. -/
def isAllowed (c : Char) : Bool :=
  isSpace c || inSpans [(0x20, 0xD7FF), (0xE000, 0xFFFD), (0x10000, 0x10FFFF)] c

def nameStarts : List Span := [
  (0x41, 0x5A), (0x5F, 0x5F), (0x61, 0x7A), (0xC0, 0xD6), (0xD8, 0xF6), (0xF8, 0x2FF),
  (0x370, 0x37D), (0x37F, 0x1FFF), (0x200C, 0x200D), (0x2070, 0x218F), (0x2C00, 0x2FEF),
  (0x3001, 0xD7FF), (0xF900, 0xFDCF), (0xFDF0, 0xFFFD), (0x10000, 0xEFFFF)]

/-- Whether a name without a prefix may begin with a character. -/
def isNameStart (c : Char) : Bool := inSpans nameStarts c

/-- Whether a name without a prefix may go on with a character. -/
def isNamePart (c : Char) : Bool :=
  isNameStart c || c.isDigit || c == '-' || c == '.' ||
    inSpans [(0xB7, 0xB7), (0x300, 0x36F), (0x203F, 0x2040)] c

/-- Splits a written name into its prefix and the rest. -/
def splitName? (s : String) : Option (Option String × String) :=
  let cs := s.toList
  let front := cs.takeWhile (· != ':')
  match cs.dropWhile (· != ':') with
  | [] => some (none, s)
  | _ :: back =>
    match front, back with
    | [], _ => none
    | _, [] => none
    | _, c :: _ =>
      if isNameStart c && !back.contains ':' then
        some (some (String.ofList front), String.ofList back)
      else none

/-- The character with a number, if a document may hold it. -/
def charOf? (n : Nat) : Option Char :=
  if n.isValidChar then
    let c := Char.ofNat n
    if isAllowed c then some c else none
  else none

/-- One line break for every way to write one. -/
def unifyLines : List Char → List Char
  | [] => []
  | '\r' :: '\n' :: cs => '\n' :: unifyLines cs
  | '\r' :: cs => '\n' :: unifyLines cs
  | c :: cs => c :: unifyLines cs

end QueryBinding.Markup
