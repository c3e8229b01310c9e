-- References to characters by name and by number, as pages use them. Older names
-- are read even without the semicolon that should end them.

namespace QueryBinding.Markup.Html

/-- Names that need no semicolon after them. -/
def openNames : List (String × Nat) := [
  ("AElig", 0xC6), ("AMP", 0x26), ("Aacute", 0xC1), ("Acirc", 0xC2), ("Agrave", 0xC0),
  ("Aring", 0xC5), ("Atilde", 0xC3), ("Auml", 0xC4), ("COPY", 0xA9), ("Ccedil", 0xC7),
  ("ETH", 0xD0), ("Eacute", 0xC9), ("Ecirc", 0xCA), ("Egrave", 0xC8), ("Euml", 0xCB), ("GT", 0x3E),
  ("Iacute", 0xCD), ("Icirc", 0xCE), ("Igrave", 0xCC), ("Iuml", 0xCF), ("LT", 0x3C),
  ("Ntilde", 0xD1), ("Oacute", 0xD3), ("Ocirc", 0xD4), ("Ograve", 0xD2), ("Oslash", 0xD8),
  ("Otilde", 0xD5), ("Ouml", 0xD6), ("QUOT", 0x22), ("REG", 0xAE), ("THORN", 0xDE),
  ("Uacute", 0xDA), ("Ucirc", 0xDB), ("Ugrave", 0xD9), ("Uuml", 0xDC), ("Yacute", 0xDD),
  ("aacute", 0xE1), ("acirc", 0xE2), ("acute", 0xB4), ("aelig", 0xE6), ("agrave", 0xE0),
  ("amp", 0x26), ("aring", 0xE5), ("atilde", 0xE3), ("auml", 0xE4), ("brvbar", 0xA6),
  ("ccedil", 0xE7), ("cedil", 0xB8), ("cent", 0xA2), ("copy", 0xA9), ("curren", 0xA4),
  ("deg", 0xB0), ("divide", 0xF7), ("eacute", 0xE9), ("ecirc", 0xEA), ("egrave", 0xE8),
  ("eth", 0xF0), ("euml", 0xEB), ("frac12", 0xBD), ("frac14", 0xBC), ("frac34", 0xBE),
  ("gt", 0x3E), ("iacute", 0xED), ("icirc", 0xEE), ("iexcl", 0xA1), ("igrave", 0xEC),
  ("iquest", 0xBF), ("iuml", 0xEF), ("laquo", 0xAB), ("lt", 0x3C), ("macr", 0xAF), ("micro", 0xB5),
  ("middot", 0xB7), ("nbsp", 0xA0), ("not", 0xAC), ("ntilde", 0xF1), ("oacute", 0xF3),
  ("ocirc", 0xF4), ("ograve", 0xF2), ("ordf", 0xAA), ("ordm", 0xBA), ("oslash", 0xF8),
  ("otilde", 0xF5), ("ouml", 0xF6), ("para", 0xB6), ("plusmn", 0xB1), ("pound", 0xA3),
  ("quot", 0x22), ("raquo", 0xBB), ("reg", 0xAE), ("sect", 0xA7), ("shy", 0xAD), ("sup1", 0xB9),
  ("sup2", 0xB2), ("sup3", 0xB3), ("szlig", 0xDF), ("thorn", 0xFE), ("times", 0xD7),
  ("uacute", 0xFA), ("ucirc", 0xFB), ("ugrave", 0xF9), ("uml", 0xA8), ("uuml", 0xFC),
  ("yacute", 0xFD), ("yen", 0xA5), ("yuml", 0xFF)]

/-- Names that need one. -/
def closedNames : List (String × Nat) := [
  ("Alpha", 0x391), ("Beta", 0x392), ("Chi", 0x3A7), ("Dagger", 0x2021), ("Delta", 0x394),
  ("Epsilon", 0x395), ("Eta", 0x397), ("Gamma", 0x393), ("Iota", 0x399), ("Kappa", 0x39A),
  ("Lambda", 0x39B), ("Mu", 0x39C), ("Nu", 0x39D), ("OElig", 0x152), ("Omega", 0x3A9),
  ("Omicron", 0x39F), ("Phi", 0x3A6), ("Pi", 0x3A0), ("Prime", 0x2033), ("Psi", 0x3A8),
  ("Rho", 0x3A1), ("Scaron", 0x160), ("Sigma", 0x3A3), ("Tau", 0x3A4), ("Theta", 0x398),
  ("Upsilon", 0x3A5), ("Xi", 0x39E), ("Yuml", 0x178), ("Zeta", 0x396), ("alefsym", 0x2135),
  ("alpha", 0x3B1), ("and", 0x2227), ("ang", 0x2220), ("apos", 0x27), ("asymp", 0x2248),
  ("bdquo", 0x201E), ("beta", 0x3B2), ("bull", 0x2022), ("cap", 0x2229), ("chi", 0x3C7),
  ("circ", 0x2C6), ("clubs", 0x2663), ("cong", 0x2245), ("crarr", 0x21B5), ("cup", 0x222A),
  ("dArr", 0x21D3), ("dagger", 0x2020), ("darr", 0x2193), ("delta", 0x3B4), ("diams", 0x2666),
  ("empty", 0x2205), ("emsp", 0x2003), ("ensp", 0x2002), ("epsilon", 0x3B5), ("equiv", 0x2261),
  ("eta", 0x3B7), ("euro", 0x20AC), ("exist", 0x2203), ("fnof", 0x192), ("forall", 0x2200),
  ("frasl", 0x2044), ("gamma", 0x3B3), ("ge", 0x2265), ("hArr", 0x21D4), ("harr", 0x2194),
  ("hearts", 0x2665), ("hellip", 0x2026), ("image", 0x2111), ("infin", 0x221E), ("int", 0x222B),
  ("iota", 0x3B9), ("isin", 0x2208), ("kappa", 0x3BA), ("lArr", 0x21D0), ("lambda", 0x3BB),
  ("lang", 0x2329), ("larr", 0x2190), ("lceil", 0x2308), ("ldquo", 0x201C), ("le", 0x2264),
  ("lfloor", 0x230A), ("lowast", 0x2217), ("loz", 0x25CA), ("lrm", 0x200E), ("lsaquo", 0x2039),
  ("lsquo", 0x2018), ("mdash", 0x2014), ("minus", 0x2212), ("mu", 0x3BC), ("nabla", 0x2207),
  ("ndash", 0x2013), ("ne", 0x2260), ("ni", 0x220B), ("notin", 0x2209), ("nsub", 0x2284),
  ("nu", 0x3BD), ("oelig", 0x153), ("oline", 0x203E), ("omega", 0x3C9), ("omicron", 0x3BF),
  ("oplus", 0x2295), ("or", 0x2228), ("otimes", 0x2297), ("part", 0x2202), ("permil", 0x2030),
  ("perp", 0x22A5), ("phi", 0x3C6), ("pi", 0x3C0), ("piv", 0x3D6), ("prime", 0x2032),
  ("prod", 0x220F), ("prop", 0x221D), ("psi", 0x3C8), ("rArr", 0x21D2), ("radic", 0x221A),
  ("rang", 0x232A), ("rarr", 0x2192), ("rceil", 0x2309), ("rdquo", 0x201D), ("real", 0x211C),
  ("rfloor", 0x230B), ("rho", 0x3C1), ("rlm", 0x200F), ("rsaquo", 0x203A), ("rsquo", 0x2019),
  ("sbquo", 0x201A), ("scaron", 0x161), ("sdot", 0x22C5), ("sigma", 0x3C3), ("sigmaf", 0x3C2),
  ("sim", 0x223C), ("spades", 0x2660), ("sub", 0x2282), ("sube", 0x2286), ("sum", 0x2211),
  ("sup", 0x2283), ("supe", 0x2287), ("tau", 0x3C4), ("there4", 0x2234), ("theta", 0x3B8),
  ("thetasym", 0x3D1), ("thinsp", 0x2009), ("tilde", 0x2DC), ("trade", 0x2122), ("uArr", 0x21D1),
  ("uarr", 0x2191), ("upsih", 0x3D2), ("upsilon", 0x3C5), ("weierp", 0x2118), ("xi", 0x3BE),
  ("zeta", 0x3B6), ("zwj", 0x200D), ("zwnj", 0x200C)]

/-- What the upper control characters stand for when they are referred to by number. -/
def controlMeanings : Array Nat := #[
  0x20AC, 0x81, 0x201A, 0x192, 0x201E, 0x2026, 0x2020, 0x2021, 0x2C6, 0x2030, 0x160, 0x2039, 0x152,
  0x8D, 0x17D, 0x8F, 0x90, 0x2018, 0x2019, 0x201C, 0x201D, 0x2022, 0x2013, 0x2014, 0x2DC, 0x2122,
  0x161, 0x203A, 0x153, 0x9D, 0x17E, 0x178]

/-- The character that stands where none can be shown. -/
def replacement : Char := '\ufffd'

def numberedChar (n : Nat) : Char :=
  if n == 0 || !n.isValidChar then replacement
  else if 0x80 ≤ n && n < 0xA0 then Char.ofNat (controlMeanings[n - 0x80]?.getD n)
  else Char.ofNat n

def closedName? (cs : List Char) : Option Char :=
  let s := String.ofList cs
  ((openNames.lookup s).or (closedNames.lookup s)).map Char.ofNat

def openName? (cs : List Char) : Option Char :=
  (openNames.lookup (String.ofList cs)).map Char.ofNat

/-- The longest front of a text that is a name, with its length. -/
def longestOpen? (cs : List Char) : Nat → Option (Char × Nat)
  | 0 => none
  | n + 1 =>
    match openName? (cs.take (n + 1)) with
    | some c => some (c, n + 1)
    | none => longestOpen? cs n

/-- Reads a reference after its mark. In attributes a name without its semicolon is kept when
the text goes on like a word. -/
def reference? (inAttribute : Bool) (cs : List Char) : Option (Char × List Char) :=
  let past (rest : List Char) := if rest.head? == some ';' then rest.drop 1 else rest
  match cs with
  | '#' :: 'x' :: rest => hexadecimal past rest
  | '#' :: 'X' :: rest => hexadecimal past rest
  | '#' :: rest =>
    let ds := rest.takeWhile Char.isDigit
    if ds.isEmpty then none
    else some (numberedChar (ds.foldl (fun n c => 10 * n + (c.toNat - 48)) 0),
      past (rest.dropWhile Char.isDigit))
  | _ =>
    let word := cs.takeWhile Char.isAlphanum
    let rest := cs.dropWhile Char.isAlphanum
    match closedName? word, rest with
    | some c, ';' :: rest => some (c, rest)
    | _, _ =>
      match longestOpen? word word.length with
      | none => none
      | some (c, length) =>
        let rest := cs.drop length
        if inAttribute && rest.head?.any (fun c => c == '=' || c.isAlphanum) then none
        else some (c, rest)
where
  hexadecimal (past : List Char → List Char) (rest : List Char) : Option (Char × List Char) :=
    let isHex (c : Char) := c.isDigit || ('a' ≤ c.toLower && c.toLower ≤ 'f')
    let ds := rest.takeWhile isHex
    let value (c : Char) := if c.isDigit then c.toNat - 48 else c.toLower.toNat - 87
    if ds.isEmpty then none
    else some (numberedChar (ds.foldl (fun n c => 16 * n + value c) 0), past (rest.dropWhile isHex))

def resolveFrom (inAttribute : Bool) : Nat → List Char → List Char
  | 0, _ => []
  | _, [] => []
  | fuel + 1, '&' :: cs =>
    match reference? inAttribute cs with
    | some (c, rest) => c :: resolveFrom inAttribute fuel rest
    | none => '&' :: resolveFrom inAttribute fuel cs
  | fuel + 1, c :: cs => c :: resolveFrom inAttribute fuel cs

/-- A text with its references resolved. -/
def resolveReferences (inAttribute : Bool) (cs : List Char) : List Char :=
  resolveFrom inAttribute (cs.length + 1) cs

end QueryBinding.Markup.Html
