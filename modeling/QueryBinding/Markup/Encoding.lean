-- Bytes as characters. The first bytes of a document, or what it declares about
-- itself, tell how it is written.
import QueryBinding.Fault
import QueryBinding.Markup.Character
import QueryBinding.Reader
import QueryBinding.Text.Utf8

namespace QueryBinding.Markup

inductive Encoding where
  | ascii
  | latin
  /-- Latin with printed characters in place of the upper control characters. -/
  | extendedLatin
  | utf8
  | utf16 (bigEnd : Bool)
  deriving Repr, DecidableEq

/-- What the document says about itself in its first line. -/
structure Declaration where
  encoding : Option String
  /-- Whether it says that it needs nothing from outside. -/
  alone : Bool
  deriving Repr, DecidableEq

namespace Declaration

abbrev Step := Reader Fault

def skipSpace : Step Unit := do
  let _ ← Reader.span isSpace

/-- Reads a value in quotes after an equals sign. -/
def quoted : Step String := do
  skipSpace
  Reader.demand .malformedMarkup "="
  skipSpace
  if ← Reader.accept "\"" then return String.ofList (← Reader.upTo .malformedMarkup "\"")
  Reader.demand .malformedMarkup "'"
  return String.ofList (← Reader.upTo .malformedMarkup "'")

/-- A word of the declaration with its value, if it comes next. -/
def item? (word : String) : Step (Option String) := do
  let before ← Reader.ahead
  let gap ← Reader.span isSpace
  if !gap.isEmpty && (← Reader.accept word) then return some (← quoted)
  set before
  return none

/-- A version is a digit, a point and digits, and only the first digit one is known. -/
def knownVersion (s : String) : Bool :=
  match s.toList with
  | '1' :: '.' :: cs => cs.all Char.isDigit
  | _ => false

def isEncodingName (s : String) : Bool :=
  match s.toList with
  | [] => false
  | c :: cs => c.isAlpha && cs.all fun c => c.isAlphanum || c == '.' || c == '_' || c == '-'

/-- Reads a declaration, which has to stand at the very front, if there is one. -/
def read : Step (Option Declaration) := do
  match ← Reader.ahead with
  | '<' :: '?' :: 'x' :: 'm' :: 'l' :: c :: _ =>
    unless isSpace c do return none
    Reader.drop 5
    let version ← item? "version"
    unless version.any knownVersion do throw .malformedMarkup
    let encoding ← item? "encoding"
    unless encoding.all isEncodingName do throw .malformedMarkup
    let alone ← item? "standalone"
    unless alone.all (fun s => s == "yes" || s == "no") do throw .malformedMarkup
    skipSpace
    Reader.demand .malformedMarkup "?>"
    return some ⟨encoding, alone == some "yes"⟩
  | _ => return none

end Declaration

namespace Encoding

/-- Encodings by the names they are declared with, in lower case. -/
def names : List (String × Encoding) := [
  ("utf-8", utf8), ("utf8", utf8),
  ("us-ascii", ascii), ("ascii", ascii), ("ansi_x3.4-1968", ascii), ("iso646-us", ascii),
  ("iso-8859-1", latin), ("iso8859-1", latin), ("iso_8859-1", latin), ("iso88591", latin),
  ("iso-latin-1", latin), ("latin1", latin), ("l1", latin), ("cp819", latin), ("ibm819", latin),
  ("windows-1252", extendedLatin), ("cp1252", extendedLatin), ("ms-ansi", extendedLatin)]

/-- What the upper control characters of the extended Latin encoding stand for. -/
def extension : Array Nat := #[
  0x20AC, 0, 0x201A, 0x192, 0x201E, 0x2026, 0x2020, 0x2021, 0x2C6, 0x2030, 0x160, 0x2039, 0x152, 0,
  0x17D, 0, 0, 0x2018, 0x2019, 0x201C, 0x201D, 0x2022, 0x2013, 0x2014, 0x2DC, 0x2122, 0x161, 0x203A,
  0x153, 0, 0x17E, 0x178]

def byteChar (b : UInt8) : Char := Char.ofNat b.toNat

/-- Reads units of sixteen bits; characters beyond them take two, a high one and a low one. -/
def pairUnits : List Nat → Option (List Char)
  | [] => some []
  | high :: rest =>
    if 0xD800 ≤ high && high < 0xDC00 then
      match rest with
      | low :: rest =>
        if 0xDC00 ≤ low && low < 0xE000 then
          let code := 0x10000 + (high - 0xD800) * 0x400 + (low - 0xDC00)
          (pairUnits rest).map (Char.ofNat code :: ·)
        else none
      | [] => none
    else if 0xDC00 ≤ high && high < 0xE000 then none
    else (pairUnits rest).map (Char.ofNat high :: ·)

def units (bigEnd : Bool) : List UInt8 → Option (List Nat)
  | [] => some []
  | [_] => none
  | a :: b :: rest =>
    let unit := if bigEnd then a.toNat * 256 + b.toNat else b.toNat * 256 + a.toNat
    (units bigEnd rest).map (unit :: ·)

def decode? (e : Encoding) (bs : List UInt8) : Option (List Char) :=
  match e with
  | ascii => if bs.all (· < 0x80) then some (bs.map byteChar) else none
  | latin => some (bs.map byteChar)
  | extendedLatin =>
    bs.mapM fun (b : UInt8) =>
      if 0x80 ≤ b && b < 0xA0 then
        match extension[b.toNat - 0x80]? with
        | some 0 => none
        | some n => some (Char.ofNat n)
        | none => none
      else some (byteChar b)
  | utf8 => (Text.decodeUtf8 bs).toOption
  | utf16 bigEnd => (units bigEnd bs).bind pairUnits

/-- The encoding that the first bytes give away, and the bytes after its mark. -/
def ofMark? : List UInt8 → Option (Encoding × List UInt8)
  | 0xEF :: 0xBB :: 0xBF :: rest => some (utf8, rest)
  | 0xFF :: 0xFE :: rest => some (utf16 false, rest)
  | 0xFE :: 0xFF :: rest => some (utf16 true, rest)
  | 0x3C :: 0x00 :: 0x3F :: 0x00 :: rest => some (utf16 false, 0x3C :: 0x00 :: 0x3F :: 0x00 :: rest)
  | 0x00 :: 0x3C :: 0x00 :: 0x3F :: rest => some (utf16 true, 0x00 :: 0x3C :: 0x00 :: 0x3F :: rest)
  | _ => none

/-- The encoding that a document declares. -/
def declared (bs : List UInt8) : Except Fault Encoding := do
  let (found, _) ← StateT.run Declaration.read (bs.map byteChar)
  match found.bind (·.encoding) with
  | none => return utf8
  | some name =>
    match names.lookup (name.map Char.toLower) with
    | some e => return e
    | none => throw .malformedMarkup

end Encoding

/-- The characters of a document. -/
def decode (bs : List UInt8) : Except Fault (List Char) := do
  let (encoding, rest) ← match Encoding.ofMark? bs with
    | some found => pure found
    | none => pure (← Encoding.declared bs, bs)
  match encoding.decode? rest with
  | some cs => return cs
  | none => throw .malformedMarkup

end QueryBinding.Markup
