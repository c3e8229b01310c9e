-- Binary floating-point numbers as decimal text. A number is taken apart into
-- a whole number and a power of two, and all rounding is done on whole numbers.
import QueryBinding.Number.Decimal

namespace QueryBinding.Number

/-- A finite number other than zero, as `mantissa * 2 ^ power` with its sign. -/
structure Binary where
  negative : Bool
  mantissa : Nat
  power : Int
  /-- Whether the gap below the number is half the gap above it. -/
  narrowBelow : Bool

/-- How a floating-point number presents itself. -/
inductive RealForm where
  | undefined
  | infinite (negative : Bool)
  | zero (negative : Bool)
  | binary (b : Binary)

/-- Reads the fields of the sixty-four bits. -/
def realForm (x : Float) : RealForm :=
  let bits := x.toBits.toNat
  let negative := bits / Nat.pow 2 63 == 1
  let exponent : Nat := bits / Nat.pow 2 52 % Nat.pow 2 11
  let fraction : Nat := bits % Nat.pow 2 52
  if exponent == 2047 then (if fraction == 0 then .infinite negative else .undefined)
  else if exponent == 0 then
    if fraction == 0 then .zero negative else .binary ⟨negative, fraction, -1074, false⟩
  else
    let narrowBelow := fraction == 0 && exponent != 1
    .binary ⟨negative, fraction + Nat.pow 2 52, (exponent : Int) - 1075, narrowBelow⟩

/-! ## Shortest digits -/

/-- A positive fraction `num / den`. -/
structure Ratio where
  num : Nat
  den : Nat

/-- `n * 2 ^ e` as a fraction. -/
def Ratio.ofBinary (n : Nat) (e : Int) : Ratio :=
  if 0 ≤ e then ⟨n * Nat.pow 2 e.toNat, 1⟩ else ⟨n, Nat.pow 2 (-e).toNat⟩

/-- A fraction divided by `10 ^ k`. -/
def Ratio.scale (r : Ratio) (k : Int) : Ratio :=
  if 0 ≤ k then ⟨r.num, r.den * Nat.pow 10 k.toNat⟩ else ⟨r.num * Nat.pow 10 (-k).toNat, r.den⟩

/-- The exponent of the leading decimal digit. -/
def Ratio.leading (r : Ratio) : Int :=
  let guess : Int := ((writeNat r.num).length : Int) - (writeNat r.den).length
  let s := r.scale guess
  if s.den ≤ s.num then guess else guess - 1

/-- The nearest whole number, a tie going to the even one. -/
def Ratio.round (r : Ratio) : Nat :=
  let q := r.num / r.den
  let twice := 2 * (r.num % r.den)
  if twice < r.den then q
  else if twice > r.den then q + 1
  else if q % 2 == 0 then q else q + 1

/-- Whether `d * 10 ^ k` is rounded to the number whose quarter gaps are given. -/
def Binary.reads (b : Binary) (d : Nat) (k : Int) : Bool :=
  let below := if b.narrowBelow then 1 else 2
  let low := (Ratio.ofBinary (4 * b.mantissa - below) (b.power - 2)).scale k
  let high := (Ratio.ofBinary (4 * b.mantissa + 2) (b.power - 2)).scale k
  if b.mantissa % 2 == 0 then
    decide (low.num ≤ d * low.den) && decide (d * high.den ≤ high.num)
  else decide (low.num < d * low.den) && decide (d * high.den < high.num)

/-- The neighbour on the grid of `count` digits that reads back, the nearer of two. -/
def Binary.onGrid? (b : Binary) (leading : Int) (count : Nat) : Option (Nat × Int) :=
  let k := leading - count + 1
  let r := (Ratio.ofBinary b.mantissa b.power).scale k
  let near := r.round
  let other := if near * r.den ≤ r.num then near + 1 else near - 1
  if b.reads near k then some (near, k)
  else if b.reads other k then some (other, k)
  else none

/-- Digits without the zeros at their end. -/
def dropZeros : Nat → Nat → Int → Nat × Int
  | 0, d, k => (d, k)
  | fuel + 1, d, k => if d % 10 == 0 && d != 0 then dropZeros fuel (d / 10) (k + 1) else (d, k)

/-- The fewest digits that read back as the number, and the exponent of the last. -/
def Binary.shortest (b : Binary) : Nat × Int :=
  let leading := (Ratio.ofBinary b.mantissa b.power).leading
  let (d, k) := ((List.range 17).findSome? fun i => b.onGrid? leading (i + 1)).getD
    ((Ratio.ofBinary b.mantissa b.power).round, 0)
  dropZeros 20 d k

/-! ## Writing -/

/-- An exponent of at least two digits, with its sign. -/
def exponentText (e : Int) : List Char :=
  let digits := writeNat e.natAbs
  (if e < 0 then '-' else '+') :: (if digits.length < 2 then '0' :: digits else digits)

/-- Positional from 0.0001 up to sixteen digits, with a fraction always, and scientific beyond. -/
def Binary.write (b : Binary) : List Char :=
  let (d, k) := b.shortest
  let digits := writeNat d
  let leading : Int := k + digits.length - 1
  Decimal.signText b.negative ++
    if -4 ≤ leading ∧ leading < 16 then
      if 0 ≤ k then digits ++ Decimal.zerosText k.toNat ++ ['.', '0']
      else Decimal.pointed digits (-k).toNat
    else Decimal.pointedFirst digits ++ 'e' :: exponentText leading

def writeReal (x : Float) : List Char :=
  match realForm x with
  | .undefined => "nan".toList
  | .infinite s => Decimal.signText s ++ "inf".toList
  | .zero s => Decimal.signText s ++ "0.0".toList
  | .binary b => b.write

def realText (x : Float) : String := String.ofList (writeReal x)

/-! ## Reading -/

/-- The number nearest to a decimal. -/
def realOfDecimal : Decimal → Float
  | .finite s c e =>
    let x := if c = 0 then 0.0
      else if e < -100000 then Float.ofScientific 0 false 0
      else if e > 100000 then 1.0 / 0.0
      else if 0 ≤ e then Float.ofScientific c false e.toNat
      else Float.ofScientific c true (-e).toNat
    if s then -x else x
  | .infinite s => if s then -(1.0 / 0.0) else 1.0 / 0.0
  | .undefined .. => 0.0 / 0.0

/-- Reads a floating-point number in decimal form. -/
def readReal? (cs : List Char) : Option Float := (Decimal.read? cs).map realOfDecimal

/-- The exact decimal value of a finite number. -/
def exactDecimal (x : Float) : Decimal :=
  match realForm x with
  | .undefined => .undefined false false 0
  | .infinite s => .infinite s
  | .zero s => .finite s 0 0
  | .binary b =>
    if 0 ≤ b.power then .finite b.negative (b.mantissa * Nat.pow 2 b.power.toNat) 0
    else .finite b.negative (b.mantissa * Nat.pow 5 (-b.power).toNat) b.power

end QueryBinding.Number
