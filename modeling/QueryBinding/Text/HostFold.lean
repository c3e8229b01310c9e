-- Characters whose compatibility form holds a separator of an address. A host
-- that holds one would fall apart differently after folding.

namespace QueryBinding.Text

/-- Characters outside ASCII that fold to a text with a slash, a question mark, a hash, an at
sign or a colon. -/
def separatorLookalikes : List Char := [
  '\u2047', '\u2048', '\u2049', '\u2100', '\u2101', '\u2105', '\u2106', '\u2a74', '\ufe13',
  '\ufe16', '\ufe55', '\ufe56', '\ufe5f', '\ufe6b', '\uff03', '\uff0f', '\uff1a', '\uff1f',
  '\uff20']

def foldsToSeparator (c : Char) : Bool := separatorLookalikes.contains c

end QueryBinding.Text
