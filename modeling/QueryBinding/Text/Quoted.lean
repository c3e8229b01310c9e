-- Texts and byte strings in quotes. A single quote is used unless the text
-- holds one and no double quote; what has no printed form is written by number.
import QueryBinding.Text.Printable

namespace QueryBinding.Text

/-- The quote that needs fewer escapes. -/
def quoteFor (cs : List Char) : Char :=
  if cs.contains '\'' && !cs.contains '"' then '"' else '\''

/-- The last `width` hexadecimal digits of a number. -/
def hexDigits : Nat → Nat → List Char
  | 0, _ => []
  | width + 1, n => hexDigits width (n / 16) ++ [Nat.digitChar (n % 16)]

/-- The written form of a character that has an escape of its own. -/
def shortEscape? (quote c : Char) : Option (List Char) :=
  if c == '\\' then some ['\\', '\\']
  else if c == quote then some ['\\', c]
  else if c == '\n' then some ['\\', 'n']
  else if c == '\r' then some ['\\', 'r']
  else if c == '\t' then some ['\\', 't']
  else none

def numberEscape (c : Char) : List Char :=
  let n := c.toNat
  if n < 0x100 then '\\' :: 'x' :: hexDigits 2 n
  else if n < 0x10000 then '\\' :: 'u' :: hexDigits 4 n
  else '\\' :: 'U' :: hexDigits 8 n

def escapeChar (quote c : Char) : List Char :=
  (shortEscape? quote c).getD (if isPrintable c then [c] else numberEscape c)

/-- A text in quotes. -/
def quote (cs : List Char) : List Char :=
  let q := quoteFor cs
  q :: cs.flatMap (escapeChar q) ++ [q]

def quoteString (s : String) : String := String.ofList (quote s.toList)

/-- One byte inside quotes: printable ASCII as it is, all else by number. -/
def escapeByte (quote : Char) (b : UInt8) : List Char :=
  let c := Char.ofNat b.toNat
  (shortEscape? quote c).getD
    (if 32 ≤ b.toNat && b.toNat < 127 then [c] else '\\' :: 'x' :: hexDigits 2 b.toNat)

/-- A byte string in quotes, with its mark in front. -/
def quoteBytes (bs : List UInt8) : String :=
  let q := quoteFor (bs.map fun b => Char.ofNat b.toNat)
  String.ofList ('b' :: q :: bs.flatMap (escapeByte q) ++ [q])

end QueryBinding.Text
