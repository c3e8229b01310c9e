-- Reading a text from its front: a step takes what it understands off the text,
-- or says why it cannot go on.

namespace QueryBinding

/-- A step of reading, which changes the text that is left. -/
abbrev Reader (ε : Type) := StateT (List Char) (Except ε)

namespace Reader

variable {ε α : Type}

/-- The text that is left. -/
def ahead : Reader ε (List Char) := get

def peek : Reader ε (Option Char) := do return (← ahead).head?

def drop (count : Nat) : Reader ε Unit := modify (·.drop count)

/-- Whether the text goes on with a mark. -/
def sees (mark : String) : Reader ε Bool := do return mark.toList.isPrefixOf (← ahead)

/-- Takes a mark off the text if it is there. -/
def accept (mark : String) : Reader ε Bool := do
  if ← sees mark then
    drop mark.length
    return true
  return false

/-- Takes a mark off the text, which must be there. -/
def demand (reason : ε) (mark : String) : Reader ε Unit := do
  unless ← accept mark do throw reason

/-- Takes off the longest run of characters of a kind. -/
def span (p : Char → Bool) : Reader ε (List Char) := do
  let cs ← ahead
  set (cs.dropWhile p)
  return cs.takeWhile p

/-- The part of a text before a mark, and the part after it. -/
def cutAt? (mark : List Char) : List Char → Option (List Char × List Char)
  | [] => if mark.isEmpty then some ([], []) else none
  | c :: cs =>
    if mark.isPrefixOf (c :: cs) then some ([], (c :: cs).drop mark.length)
    else (cutAt? mark cs).map fun (before, after) => (c :: before, after)

/-- Takes off everything up to a mark, and the mark. -/
def upTo (reason : ε) (mark : String) : Reader ε (List Char) := do
  match cutAt? mark.toList (← ahead) with
  | some (before, after) =>
    set after
    return before
  | none => throw reason

def repeatFrom : Nat → Reader ε (Option α) → Reader ε (List α)
  | 0, _ => return []
  | fuel + 1, step => do
    match ← step with
    | none => return []
    | some a => return a :: (← repeatFrom fuel step)

/-- Repeats a step until it gives nothing, at most once for every character that is left. -/
def many (step : Reader ε (Option α)) : Reader ε (List α) := do
  repeatFrom ((← ahead).length + 1) step

def chainFrom : Nat → (α → Reader ε (Option α)) → α → Reader ε α
  | 0, _, a => return a
  | fuel + 1, next, a => do
    match ← next a with
    | none => return a
    | some b => chainFrom fuel next b

/-- Goes on from a result until there is no next one, at most once for every character. -/
def chain (next : α → Reader ε (Option α)) (a : α) : Reader ε α := do
  chainFrom ((← ahead).length + 1) next a

/-- Reads a whole text. -/
def whole (reason : ε) (step : Reader ε α) (cs : List Char) : Except ε α := do
  let (a, rest) ← StateT.run step cs
  if rest.isEmpty then return a else throw reason

end Reader

end QueryBinding
