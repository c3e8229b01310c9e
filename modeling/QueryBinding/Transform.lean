-- Transforms: what is done once with the value of a field before it is
-- validated. The transforms of this library work on a text, on each text of a
-- list, and leave nothing as nothing.
import QueryBinding.Failure

namespace QueryBinding

inductive Transform where
  | strip
  | normalizeWhitespace
  | toInt
  | toDecimal
  | prepend (base : String)
  | fixScheme (base : String)
  | absoluteUrl (base : String)
  | compose (parts : List Transform)
  /-- The plain text of a value. -/
  | text
  | length
  | integer
  | upper
  | lower
  | trim
  | constant (value : Value)
  | explode (message : String)
  | missing (query : String)
  /-- Tells how often it was called; counts are kept under the number. -/
  | counting (counter : Nat) (mark : String)
  | anonymous (inner : Transform)
  /-- Any other function, with the name that it declares for itself. -/
  | function (name : Option String) (run : Value → Except Failure Value)
  /-- A value that cannot be called. -/
  | inert (value : Value)
  deriving Inhabited

namespace Transform

/-! ## Names -/

mutual

/-- The name that a transform declares for itself, if it declares one. -/
def ownName? : Transform → Option String
  | strip => some "strip"
  | normalizeWhitespace => some "normalize_whitespace"
  | toInt => some "to_int"
  | toDecimal => some "to_decimal"
  | prepend _ => some "prefix"
  | fixScheme _ => some "fix_scheme"
  | absoluteUrl _ => some "absolute_url"
  | compose parts =>
    some (if parts.isEmpty then "identity" else "+".intercalate (partNames parts))
  | text => some "str"
  | length => some "len"
  | integer => some "int"
  | upper => some "upper"
  | lower => some "lower"
  | trim => some "strip"
  | constant _ => some "const"
  | explode _ => some "explode"
  | missing _ => some "missing"
  | counting .. => some "count"
  | anonymous _ => none
  | function name _ => name
  | inert _ => none

def partNames : List Transform → List String
  | [] => []
  | t :: ts => (ownName? t).getD "transform" :: partNames ts

end

def name (t : Transform) : String :=
  (ownName? t).getD (match t with
    | inert v => v.kind
    | _ => "Anonymous")

def isCallable : Transform → Bool
  | inert _ => false
  | _ => true

/-! ## Work on one text -/

/-- What an integer text may be grouped with. -/
def isGrouping (c : Char) : Bool := c == ' ' || c == '\u00a0' || c == ','

def compactInteger (cs : List Char) : List Char := (Text.strip cs).filter (!isGrouping ·)

def parseInteger (cs : List Char) : Except Fault Int :=
  match Number.readInteger cs with
  | .ok n => .ok n
  | .error .malformed => .error (.malformedInteger (String.ofList (Text.quote cs)))
  | .error (.tooLong digits) => .error (.longInteger digits)

/-- How much of a text is left behind the last occurrence of a mark. -/
def behindLast (mark : Char) (cs : List Char) : Nat := (cs.reverse.takeWhile (· != mark)).length

/-- A decimal text without blanks and grouping marks, and with a point for its separator: of
comma and point, the one that occurs last is the separator. -/
def compactDecimal (cs : List Char) : List Char :=
  let compact := (Text.strip cs).filter fun c => c != ' ' && c != '\u00a0'
  let ungrouped :=
    if compact.contains ',' && compact.contains '.' then
      let grouping := if behindLast '.' compact < behindLast ',' compact then ',' else '.'
      compact.filter (· != grouping)
    else compact
  ungrouped.map fun c => if c == ',' then '.' else c

def parseDecimal (cs : List Char) : Except Fault Number.Decimal :=
  match Number.Decimal.read? (compactDecimal cs) with
  | some d => .ok d
  | none => .error (.malformedDecimal (String.ofList cs))

/-- Whether one text begins with another. -/
def startsWith (start cs : List Char) : Bool := start.isPrefixOf cs

/-- Gives an address without a scheme that of the base. -/
def fixSchemeOf (base cs : List Char) : List Char :=
  if startsWith "http".toList cs then cs
  else if startsWith ['/', '/'] cs then
    (if startsWith "https".toList base then "https:".toList else "http:".toList) ++ cs
  else cs

def resolve (base cs : List Char) : Except Fault (List Char) :=
  match Url.join base (Text.strip cs) with
  | .ok joined => .ok joined
  | .error e => .error (.malformedUrl e)

/-- The transform that resolves against a base, if the base is absolute. -/
def absoluteUrl? (base : String) : Except Fault Transform :=
  match Url.split base.toList [] with
  | .error e => .error (.malformedUrl e)
  | .ok parts => if parts.IsAbsolute then .ok (.absoluteUrl base) else .error (.relativeBase base)

/-! ## Work on one item -/

def ofChars (cs : List Char) : Value := .text (String.ofList cs)

def stripItem : Value → Except Fault Value
  | .text s => .ok (ofChars (Text.strip s.toList))
  | v => .error (.textOnly "strip" v.fullKind)

def isBlankByte (b : UInt8) : Bool := (9 ≤ b && b ≤ 13) || b == 32

def normalizeItem : Value → Except Fault Value
  | .text s => .ok (ofChars (Text.normalize s.toList))
  | .bytes bs =>
    if bs.all isBlankByte then .ok (.text "")
    else .error (.mixedWithBytes "sequence item 0: expected str instance, bytes found")
  | v => .error (.lacking v.fullKind "split")

def needsText (operation problem : String) (v : Value) : Fault :=
  match v with
  | .bytes _ => .mixedWithBytes problem
  | _ => .lacking v.fullKind operation

def toIntItem : Value → Except Fault Value
  | .text s => (parseInteger (compactInteger s.toList)).map .int
  | v => .error (needsText "strip" "a bytes-like object is required, not 'str'" v)

def toDecimalItem : Value → Except Fault Value
  | .text s => (parseDecimal s.toList).map .decimal
  | v => .error (needsText "strip" "a bytes-like object is required, not 'str'" v)

def prependItem (base : String) (v : Value) : Except Fault Value := .ok (.text (base ++ v.plain))

def fixSchemeItem (base : String) : Value → Except Fault Value
  | .text s => .ok (ofChars (fixSchemeOf base.toList s.toList))
  | v => .error (needsText "startswith"
      "startswith first arg must be bytes or a tuple of bytes, not str" v)

def absoluteUrlItem (base : String) : Value → Except Fault Value
  | .text s => (resolve base.toList s.toList).map ofChars
  | .bytes bs =>
    if bs.all isBlankByte then .ok (.text base)
    else .error (.mixedWithBytes "Cannot mix str and non-str arguments")
  | v => .error (.lacking v.fullKind "strip")

/-- Works on each item of a list, on a single item, and leaves nothing as nothing. -/
def lift (f : Value → Except Fault Value) : Value → Except Fault Value
  | .none => .ok .none
  | .list items => (items.mapM f).map .list
  | v => f v

/-! ## Work on whole values -/

def lengthOf : Value → Except Fault Value
  | .text s => .ok (.int s.length)
  | .bytes bs => .ok (.int bs.length)
  | .list items => .ok (.int items.length)
  | .tuple items => .ok (.int items.length)
  | .mapping entries => .ok (.int entries.length)
  | v => .error (.noLength v.fullKind)

def realInteger (x : Float) : Except Fault Int :=
  match Number.exactDecimal x with
  | .undefined .. => .error (.undefinedInteger "float ")
  | .infinite _ => .error (.infiniteInteger "float infinity")
  | d => .ok (d.truncate?.getD 0)

def decimalInteger : Number.Decimal → Except Fault Int
  | .undefined .. => .error (.undefinedInteger "")
  | .infinite _ => .error (.infiniteInteger "Infinity")
  | d => .ok (d.truncate?.getD 0)

/-- The integer that bytes write, in ASCII only. -/
def bytesInteger (bs : List UInt8) : Except Fault Int :=
  if bs.all (· < 128) then
    match Number.readInteger (bs.map fun b => Char.ofNat b.toNat) with
    | .ok n => .ok n
    | .error (.tooLong digits) => .error (.longInteger digits)
    | .error .malformed => .error (.malformedInteger (Text.quoteBytes bs))
  else .error (.malformedInteger (Text.quoteBytes bs))

def integerOf : Value → Except Fault Value
  | .text s => (parseInteger s.toList).map .int
  | .bytes bs => (bytesInteger bs).map .int
  | .bool b => .ok (.int (if b then 1 else 0))
  | .int n => .ok (.int n)
  | .float x => (realInteger x).map .int
  | .decimal d => (decimalInteger d).map .int
  | v => .error (.notNumeric v.fullKind)

def onText (operation : String) (f : List Char → List Char) : Value → Except Fault Value
  | .text s => .ok (ofChars (f s.toList))
  | v => .error (.textOnly operation v.fullKind)

/-! ## Calls -/

/-- How often each counting transform was called. -/
abbrev Calls := List (Nat × Nat)

namespace Calls

def count (calls : Calls) (counter : Nat) : Nat := (calls.lookup counter).getD 0

def increment (calls : Calls) (counter : Nat) : Calls :=
  (counter, calls.count counter + 1) :: calls.filter (·.1 != counter)

end Calls

/-- A computation that may fail and that counts calls. -/
abbrev Counted := ExceptT Failure (StateM Calls)

def ofFault {α : Type} : Except Fault α → Counted α
  | .ok a => pure a
  | .error f => throw (.fault f)

mutual

def apply : Transform → Value → Counted Value
  | strip, v => ofFault (lift stripItem v)
  | normalizeWhitespace, v => ofFault (lift normalizeItem v)
  | toInt, v => ofFault (lift toIntItem v)
  | toDecimal, v => ofFault (lift toDecimalItem v)
  | prepend base, v => ofFault (lift (prependItem base) v)
  | fixScheme base, v => ofFault (lift (fixSchemeItem base) v)
  | absoluteUrl base, v => ofFault (lift (absoluteUrlItem base) v)
  | compose parts, v => applyAll parts v
  | text, v => pure (.text v.plain)
  | length, v => ofFault (lengthOf v)
  | integer, v => ofFault (integerOf v)
  | upper, v => ofFault (onText "upper" Text.upper v)
  | lower, v => ofFault (onText "lower" Text.lower v)
  | trim, v => ofFault (onText "strip" Text.strip v)
  | constant c, _ => pure c
  | explode m, v => throw (.fault (.raised (m ++ " " ++ v.plain)))
  | missing q, _ => throw (.field (.missing q))
  | counting counter mark, _ => do
    modify (·.increment counter)
    let calls ← get
    pure (.text (mark ++ toString (calls.count counter)))
  | anonymous inner, v => apply inner v
  | function _ run, v => MonadExcept.ofExcept (run v)
  | inert c, _ => throw (.fault (.notCallable c.fullKind))

/-- The parts from left to right, each on the result of the one before. -/
def applyAll : List Transform → Value → Counted Value
  | [], v => pure v
  | t :: ts, v => do
    let w ← apply t v
    applyAll ts w

end

end Transform

end QueryBinding
