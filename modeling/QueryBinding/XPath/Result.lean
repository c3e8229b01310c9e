-- What queries give: places, a number, a text or a truth value, and how each is
-- taken for another.
import QueryBinding.XPath.Numeral
import QueryBinding.XPath.Place

namespace QueryBinding.XPath

open QueryBinding.Markup

inductive Result where
  /-- Places in document order. -/
  | places (ps : List Place)
  | number (x : Float)
  | text (s : String)
  | truth (b : Bool)
  deriving Inhabited

namespace Result

variable (t : Table)

/-- A set of places has the text of the first. -/
def toText : Result → String
  | places ps => (ps.head?.map (textAt t)).getD ""
  | number x => Numeral.toText x
  | text s => s
  | truth b => if b then "true" else "false"

def toNumber : Result → Float
  | number x => x
  | truth b => if b then 1.0 else 0.0
  | r => Numeral.ofText (toText t r)

def numberTruth (x : Float) : Bool := !(x.isNaN || x == 0.0)

def toTruth : Result → Bool
  | places ps => !ps.isEmpty
  | number x => numberTruth x
  | text s => s != ""
  | truth b => b

def places? : Result → Except Defect (List Place)
  | places ps => .ok ps
  | _ => .error .wrongType

/-! ## Comparing -/

/-- Whether two results that are no places are equal. -/
def plainEqual (a b : Result) : Bool :=
  match a, b with
  | truth x, _ => x == b.toTruth
  | _, truth y => a.toTruth == y
  | number _, _ => a.toNumber t == b.toNumber t
  | _, number _ => a.toNumber t == b.toNumber t
  | _, _ => a.toText t == b.toText t

/-- Places are compared by their texts: one that fits is enough. -/
def compares (textTest : String → String → Bool) (numberTest : Float → Float → Bool)
    (truthTest : Bool → Bool → Bool) (plainTest : Result → Result → Bool) (a b : Result) : Bool :=
  match a, b with
  | places ps, places qs =>
    ps.any fun p => qs.any fun q => textTest (textAt t p) (textAt t q)
  | places _, truth y => truthTest a.toTruth y
  | truth x, places _ => truthTest x b.toTruth
  | places ps, number y => ps.any fun p => numberTest (Numeral.ofText (textAt t p)) y
  | number x, places qs => qs.any fun q => numberTest x (Numeral.ofText (textAt t q))
  | places ps, text y => ps.any fun p => textTest (textAt t p) y
  | text x, places qs => qs.any fun q => textTest x (textAt t q)
  | _, _ => plainTest a b

def equal (a b : Result) : Bool :=
  compares t (· == ·) (· == ·) (· == ·) (plainEqual t) a b

def unequal (a b : Result) : Bool :=
  compares t (· != ·) (· != ·) (· != ·) (fun a b => !plainEqual t a b) a b

/-- An order of numbers, for all kinds of results. -/
def ordered (test : Float → Float → Bool) (a b : Result) : Bool :=
  compares t (fun x y => test (Numeral.ofText x) (Numeral.ofText y)) test
    (fun x y => test (toNumber t (truth x)) (toNumber t (truth y)))
    (fun a b => test (a.toNumber t) (b.toNumber t)) a b

end Result

end QueryBinding.XPath
