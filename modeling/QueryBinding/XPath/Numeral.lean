-- Numbers in queries. They are read digit by digit, and written with at most
-- fifteen digits.
import QueryBinding.Markup.Character
import QueryBinding.Number.Real

namespace QueryBinding.XPath.Numeral

open QueryBinding.Number

def undefined : Float := 0.0 / 0.0

/-- How many digits count after the zeros that open a fraction. -/
def fractionLimit : Nat := 20

def power (e : Int) : Float := Float.pow 10.0 (Float.ofInt e)

def digitsValue (ds : List Char) : Float :=
  ds.foldl (fun x c => x * 10.0 + Float.ofNat (c.toNat - 48)) 0.0

def fractionValue (ds : List Char) : Float :=
  let zeros := (ds.takeWhile (· == '0')).length
  let counted := (ds.drop zeros).take fractionLimit
  digitsValue counted / power ((zeros + counted.length : Nat) : Int)

/-- An exponent after its mark, which no digits need to follow. -/
def exponent (cs : List Char) : Int × List Char :=
  let (negative, cs) := match cs with
    | '-' :: rest => (true, rest)
    | '+' :: rest => (false, rest)
    | _ => (false, cs)
  let n : Nat := (cs.takeWhile Char.isDigit).foldl
    (fun n c => if n < 1000000 then 10 * n + (c.toNat - 48) else n) 0
  (if negative then -(n : Int) else n, cs.dropWhile Char.isDigit)

/-- A number without a sign at the front of a text, and the text after it. -/
def read? (cs : List Char) : Option (Float × List Char) :=
  let whole := cs.takeWhile Char.isDigit
  let rest := cs.dropWhile Char.isDigit
  let (fraction, rest) := match rest with
    | '.' :: rest => (rest.takeWhile Char.isDigit, rest.dropWhile Char.isDigit)
    | _ => ([], rest)
  if whole.isEmpty && fraction.isEmpty then none
  else
    let value := digitsValue whole + fractionValue fraction
    match rest with
    | c :: rest' =>
      if c == 'e' || c == 'E' then
        let (e, rest) := exponent rest'
        some (value * power e, rest)
      else some (value, rest)
    | [] => some (value, [])

/-- The number that a text writes, with blanks around it and perhaps a minus in front. -/
def ofText (s : String) : Float :=
  let cs := s.toList.dropWhile Markup.isSpace
  let (negative, cs) := match cs with
    | '-' :: rest => (true, rest)
    | _ => (false, cs)
  match read? cs with
  | some (x, rest) =>
    if rest.all Markup.isSpace then (if negative then -x else x) else undefined
  | none => undefined

/-! ## Writing -/

/-- Digits after the point without the zeros at their end, with the point if any are left. -/
def fractionText (ds : List Char) : List Char :=
  match trim ds with
  | [] => []
  | ds => '.' :: ds
where
  trim (ds : List Char) : List Char := (ds.reverse.dropWhile (· == '0')).reverse

def padded (count : Nat) (ds : List Char) : List Char :=
  List.replicate (count - ds.length) '0' ++ ds

/-- A number with so many places after the point, the last ones dropped when they are zero. -/
def fixed (r : Ratio) (places : Nat) : List Char :=
  let ds := padded (places + 1) (writeNat (r.scale (-(places : Int))).round)
  let count := ds.length - places
  ds.take count ++ fractionText (ds.drop count)

/-- A number with fifteen digits and an exponent, the last digits dropped when they are zero. -/
def scientific (r : Ratio) : List Char :=
  let leading := r.leading
  let d := (r.scale (leading - 14)).round
  let ds := writeNat d
  let e : Int := leading + (ds.length - 15 : Nat)
  ds.take 1 ++ fractionText ((ds.drop 1).take 14) ++ 'e' :: exponentText e

/-- How many places are written for a number of this size. -/
def placesFor (size : Float) : Nat :=
  let magnitude := (Float.log10 size).toInt64.toInt
  (if 0 < magnitude then 15 - magnitude - 1 else 15 - magnitude).toNat

/-- Whole numbers are written as they are when they fit into thirty-two bits. -/
def wholeLimit : Float := 2147483647.0

/-- The text of a number. -/
def toText (x : Float) : String :=
  match realForm x with
  | .undefined => "NaN"
  | .infinite negative => if negative then "-Infinity" else "Infinity"
  | .zero _ => "0"
  | .binary b =>
    let size := Float.abs x
    let r := Ratio.ofBinary b.mantissa b.power
    let digits :=
      if -2147483648.0 < x && x < wholeLimit && x.floor == x then writeNat r.round
      else if size > 1000000000.0 || size < 0.00001 then scientific r
      else fixed r (placesFor size)
    String.ofList (Decimal.signText b.negative ++ digits)

/-! ## Arithmetic -/

/-- The nearest whole number, and of two the greater one. A zero keeps its sign. -/
def round (x : Float) : Float :=
  if -0.5 ≤ x && x < 0.5 then x * 0.0
  else
    let low := x.floor
    if x - low ≥ 0.5 then low + 1.0 else low

/-- The nearest whole number, without regard to signs of zero. -/
def roundHalf (x : Float) : Float :=
  let low := x.floor
  if x - low ≥ 0.5 then low + 1.0 else low

/-- What is left of a number after taking away another as often as it goes, with the sign of the
first number. -/
def remainder (x y : Float) : Float :=
  match realForm x, realForm y with
  | .undefined, _ => undefined
  | _, .undefined => undefined
  | .infinite _, _ => undefined
  | _, .zero _ => undefined
  | _, .infinite _ => x
  | .zero _, _ => x
  | .binary a, .binary b =>
    let low := min a.power b.power
    let whole (x : Number.Binary) : Nat := x.mantissa * Nat.pow 2 (x.power - low).toNat
    let n := whole a % whole b
    let size := Float.scaleB (Float.ofNat n) low
    if a.negative then -size else size

end QueryBinding.XPath.Numeral
