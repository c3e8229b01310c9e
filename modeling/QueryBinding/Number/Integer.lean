-- Integers as text: digits of any script, a sign, blanks around, and a single
-- low line between two digits. Writing gives plain ASCII digits.
import QueryBinding.Text.Blank
import QueryBinding.Text.Digit

namespace QueryBinding.Number

open Text

/-- The most digits that an integer text may have. -/
def digitLimit : Nat := 4300

/-- Why a text is no integer. -/
inductive IntegerFault where
  | malformed
  | tooLong (digits : Nat)
  deriving Repr, DecidableEq

/-! ## The pure model -/

/-- The blanks that may stand around an integer: all but the four record separators. -/
def isPadding (c : Char) : Bool := isBlank c && !(28 ≤ c.toNat && c.toNat ≤ 31)

def trimPadding (cs : List Char) : List Char :=
  ((cs.dropWhile isPadding).reverse.dropWhile isPadding).reverse

/-- The values of the digits that a text starts with, single low lines between them left out,
and the rest; none if a digit is needed next, at the start and behind a low line, and does not
come. -/
def digitRun (needed : Bool) : List Char → Option (List Nat × List Char)
  | [] => if needed then none else some ([], [])
  | c :: cs =>
    match digit? c with
    | some d => (digitRun false cs).map fun (ds, rest) => (d :: ds, rest)
    | none =>
      if needed then none
      else if c == '_' then digitRun true cs
      else some ([], c :: cs)

/-- The sign of a number, true for minus, and the rest. -/
def signOf : List Char → Bool × List Char
  | '-' :: cs => (true, cs)
  | '+' :: cs => (false, cs)
  | cs => (false, cs)

def withSign (negative : Bool) (n : Nat) : Int := if negative then -(n : Int) else n

/-- Reads an integer. Too many digits are reported before a bad rest. -/
def readInteger (cs : List Char) : Except IntegerFault Int :=
  let (negative, body) := signOf (trimPadding cs)
  match digitRun true body with
  | none => .error .malformed
  | some (ds, rest) =>
    if ds.length > digitLimit then .error (.tooLong ds.length)
    else if rest.isEmpty then .ok (withSign negative (ofDigits ds))
    else .error .malformed

/-- The ASCII digits of a number, without leading zeros. -/
def writeNat (n : Nat) : List Char := Nat.toDigits 10 n

def writeInteger : Int → List Char
  | .ofNat n => writeNat n
  | .negSucc n => '-' :: writeNat (n + 1)

end QueryBinding.Number
