-- What a field is called: by its name, or by its position in a structure that
-- wraps a single value.

namespace QueryBinding

inductive Identifier where
  | name (s : String)
  | position (i : Int)
  deriving Repr, DecidableEq, Inhabited

namespace Identifier

def text : Identifier → String
  | name s => s
  | position i => toString i

end Identifier

/-- The place of a value inside another, from the outside in. -/
abbrev Path := List Identifier

end QueryBinding
