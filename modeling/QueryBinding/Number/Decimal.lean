-- Decimal numbers with a coefficient and a power of ten, kept as they were
-- written: 1.50 has the coefficient 150 and the exponent -2. Besides numbers
-- there are infinities, and values that are no number.
import QueryBinding.Number.Integer
import QueryBinding.Text.Case

namespace QueryBinding.Number

open Text

inductive Decimal where
  | finite (negative : Bool) (coefficient : Nat) (exponent : Int)
  | infinite (negative : Bool)
  /-- No number, with a number for what went wrong, and a mark if using it is an error. -/
  | undefined (negative signaling : Bool) (payload : Nat)
  deriving Repr, DecidableEq, Inhabited

namespace Decimal

/-! ## Limits -/

/-- The largest exponent that the leading digit may have. -/
def maxExponent : Int := 999999999999999999

/-- The smallest exponent that the last digit may have. -/
def minExponent : Int := -1999999999999999997

/-- The exponent of the leading digit. -/
def leadingExponent (coefficient : Nat) (exponent : Int) : Int :=
  exponent + (writeNat coefficient).length - 1

def inRange (coefficient : Nat) (exponent : Int) : Bool :=
  decide (minExponent ≤ exponent) && decide (leadingExponent coefficient exponent ≤ maxExponent)

/-- The most digits that a coefficient, and a fraction as it is written, may have. -/
def maxDigits : Nat := 999999999999999999

/-- Whether a number that is written with so many places behind the point can be held. -/
def fits (places coefficient : Nat) (exponent : Int) : Bool :=
  decide (places ≤ maxDigits) && decide ((writeNat coefficient).length ≤ maxDigits) &&
    inRange coefficient exponent

/-! ## Reading -/

/-- The digits that a text starts with, and the rest. -/
def digitsOf (cs : List Char) : List Nat × List Char :=
  ((cs.takeWhile isDigit).filterMap digit?, cs.dropWhile isDigit)

/-- The exponent behind a number: none if the text is not one. -/
def exponentOf : List Char → Option Int
  | [] => some 0
  | e :: cs =>
    if e == 'e' || e == 'E' then
      let (negative, body) := signOf cs
      match digitsOf body with
      | ([], _) => none
      | (ds, []) => some (withSign negative (ofDigits ds))
      | _ => none
    else none

/-- The digits behind the point, and the rest. -/
def fractionOf : List Char → List Nat × List Char
  | '.' :: cs => digitsOf cs
  | cs => ([], cs)

def readFinite (negative : Bool) (cs : List Char) : Option Decimal :=
  let (whole, rest) := digitsOf cs
  let (fraction, rest) := fractionOf rest
  if whole.isEmpty && fraction.isEmpty then none
  else do
    let e ← exponentOf rest
    let coefficient := ofDigits (whole ++ fraction)
    let exponent := e - fraction.length
    if fits fraction.length coefficient exponent then some (.finite negative coefficient exponent)
    else none

/-- The payload of a value that is no number. -/
def readPayload (cs : List Char) : Option Nat :=
  match digitsOf cs with
  | (ds, []) => some (ofDigits ds)
  | _ => none

def readSpecial (negative : Bool) (cs : List Char) : Option Decimal :=
  match cs.map Char.toLower with
  | ['i', 'n', 'f'] => some (.infinite negative)
  | ['i', 'n', 'f', 'i', 'n', 'i', 't', 'y'] => some (.infinite negative)
  | 'n' :: 'a' :: 'n' :: rest => (readPayload rest).map (.undefined negative false)
  | 's' :: 'n' :: 'a' :: 'n' :: rest => (readPayload rest).map (.undefined negative true)
  | _ => none

/-- Reads a decimal: blanks around it and low lines anywhere are left out. -/
def read? (cs : List Char) : Option Decimal :=
  let (negative, body) := signOf ((strip cs).filter (· != '_'))
  (readFinite negative body).or (readSpecial negative body)

/-! ## Writing -/

def zerosText (n : Nat) : List Char := List.replicate n '0'

/-- Digits with a point before the last `places` of them. -/
def pointed (digits : List Char) (places : Nat) : List Char :=
  if places = 0 then digits
  else if digits.length > places then
    digits.take (digits.length - places) ++ '.' :: digits.drop (digits.length - places)
  else '0' :: '.' :: zerosText (places - digits.length) ++ digits

/-- Digits with a point after the first. -/
def pointedFirst : List Char → List Char
  | [] => []
  | [d] => [d]
  | d :: ds => d :: '.' :: ds

/-- An exponent with its sign. -/
def signed (e : Int) : List Char := if e < 0 then writeInteger e else '+' :: writeInteger e

/-- Plain digits when the point falls among the digits or at most five zeros before them, and
scientific form otherwise. -/
def writeFinite (coefficient : Nat) (exponent : Int) : List Char :=
  let digits := writeNat coefficient
  let leading := leadingExponent coefficient exponent
  if exponent ≤ 0 ∧ -6 ≤ leading then pointed digits (-exponent).toNat
  else pointedFirst digits ++ 'E' :: signed leading

def signText (negative : Bool) : List Char := if negative then ['-'] else []

def write : Decimal → List Char
  | .finite s c e => signText s ++ writeFinite c e
  | .infinite s => signText s ++ "Infinity".toList
  | .undefined s signaling p =>
    signText s ++ (if signaling then ['s'] else []) ++ "NaN".toList ++
      (if p = 0 then [] else writeNat p)

def toText (d : Decimal) : String := String.ofList d.write

/-! ## Values -/

def isFinite : Decimal → Bool
  | .finite .. => true
  | _ => false

/-- Whether the magnitude is a whole number, said without a power of ten when the exponent is
not negative. -/
def isWhole : Decimal → Bool
  | .finite _ c e => c = 0 || 0 ≤ e ||
      decide ((writeNat c).length ≥ (-e).toNat) && c % Nat.pow 10 (-e).toNat == 0
  | _ => false

/-- The integer part, toward zero. Exponents whose power would not fit give none. -/
def truncate? : Decimal → Option Int
  | .finite s c e =>
    if c = 0 then some 0
    else if 0 ≤ e then some (withSign s (c * Nat.pow 10 e.toNat))
    else if (writeNat c).length < (-e).toNat then some 0
    else some (withSign s (c / Nat.pow 10 (-e).toNat))
  | _ => none

def ofInt (n : Int) : Decimal := .finite (n < 0) n.natAbs 0

/-- Whether one magnitude, not zero, is at most another. -/
def magnitudeLessEq (c : Nat) (e : Int) (d : Nat) (f : Int) : Bool :=
  let a := leadingExponent c e
  let b := leadingExponent d f
  if a < b then true
  else if b < a then false
  else if f ≤ e then decide (c * Nat.pow 10 (e - f).toNat ≤ d)
  else decide (c ≤ d * Nat.pow 10 (f - e).toNat)

/-- Whether one decimal is at most another. What is no number is not comparable. -/
def lessEq : Decimal → Decimal → Bool
  | .finite s c e, .finite t d f =>
    if c = 0 then d = 0 || !t
    else if d = 0 then s
    else match s, t with
      | true, false => true
      | false, true => false
      | false, false => magnitudeLessEq c e d f
      | true, true => magnitudeLessEq d f c e
  | .infinite s, .infinite t => s || !t
  | .infinite s, .finite .. => s
  | .finite .., .infinite t => !t
  | _, _ => false

/-- Whether two decimals measure the same. What is no number equals nothing. -/
def equals : Decimal → Decimal → Bool
  | .finite s c e, .finite t d f =>
    if c = 0 ∨ d = 0 then c == d
    else s == t && leadingExponent c e == leadingExponent d f &&
      (if f ≤ e then c * Nat.pow 10 (e - f).toNat == d else c == d * Nat.pow 10 (f - e).toNat)
  | .infinite s, .infinite t => s == t
  | _, _ => false

end Decimal

end QueryBinding.Number
