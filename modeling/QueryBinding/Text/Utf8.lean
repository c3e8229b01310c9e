-- Reading bytes as UTF-8. A sequence is read by its first byte, and the first
-- sequence that breaks the rules is told with its place.

namespace QueryBinding.Text

/-- Why bytes from `start` on, `length` of them, are no UTF-8. -/
structure Utf8Fault where
  start : Nat
  length : Nat
  first : UInt8
  reason : String
  deriving Repr, DecidableEq

def isContinuation (b : UInt8) : Bool := 0x80 ≤ b && b < 0xC0

/-- How many bytes follow a first byte, and the bounds of the second byte. -/
def sequenceOf (b : UInt8) : Option (Nat × UInt8 × UInt8) :=
  if 0xC2 ≤ b && b ≤ 0xDF then some (1, 0x80, 0xBF)
  else if b == 0xE0 then some (2, 0xA0, 0xBF)
  else if b == 0xED then some (2, 0x80, 0x9F)
  else if 0xE1 ≤ b && b ≤ 0xEF then some (2, 0x80, 0xBF)
  else if b == 0xF0 then some (3, 0x90, 0xBF)
  else if 0xF1 ≤ b && b ≤ 0xF3 then some (3, 0x80, 0xBF)
  else if b == 0xF4 then some (3, 0x80, 0x8F)
  else none

/-- How many of the bytes that should follow do so. -/
def validTail (low high : UInt8) (rest : List UInt8) : Nat :=
  match rest with
  | [] => 0
  | b :: bs => if low ≤ b && b ≤ high then 1 + (bs.takeWhile isContinuation).length else 0

/-- The character of a sequence, from the bits of its bytes. -/
def sequenceChar (first : UInt8) (tail : List UInt8) : Char :=
  let mask := match tail.length with
    | 1 => 0x1F
    | 2 => 0x0F
    | _ => 0x07
  Char.ofNat (tail.foldl (fun n b => n * 64 + b.toNat % 64) (first.toNat % (mask + 1)))

/-- Reads bytes from a place on; `fuel` bounds the number of sequences. -/
def decodeFrom : Nat → Nat → List UInt8 → Except Utf8Fault (List Char)
  | 0, _, _ => .ok []
  | _, _, [] => .ok []
  | fuel + 1, at_, b :: rest =>
    if b < 0x80 then (decodeFrom fuel (at_ + 1) rest).map (Char.ofNat b.toNat :: ·)
    else match sequenceOf b with
      | none => .error ⟨at_, 1, b, "invalid start byte"⟩
      | some (follow, low, high) =>
        let valid := validTail low high rest
        if follow ≤ valid then
          (decodeFrom fuel (at_ + 1 + follow) (rest.drop follow)).map
            (sequenceChar b (rest.take follow) :: ·)
        else .error ⟨at_, valid + 1, b,
          if valid == rest.length then "unexpected end of data" else "invalid continuation byte"⟩

def decodeUtf8 (bs : List UInt8) : Except Utf8Fault (List Char) :=
  decodeFrom (bs.length + 1) 0 bs

/-- A byte as two hexadecimal digits. -/
def byteHex (b : UInt8) : String :=
  String.ofList [Nat.digitChar (b.toNat / 16), Nat.digitChar (b.toNat % 16)]

def Utf8Fault.message (f : Utf8Fault) : String :=
  if f.length = 1 then
    "'utf-8' codec can't decode byte 0x" ++ byteHex f.first ++ " in position " ++
      toString f.start ++ ": " ++ f.reason
  else
    "'utf-8' codec can't decode bytes in position " ++ toString f.start ++ "-" ++
      toString (f.start + f.length - 1) ++ ": " ++ f.reason

end QueryBinding.Text
