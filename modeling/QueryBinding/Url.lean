-- Addresses: taking one apart, putting it together, and resolving a reference
-- against a base. Only schemes with a known hierarchy resolve references.
import QueryBinding.Text.Blank
import QueryBinding.Text.Quoted
import QueryBinding.Text.HostFold
import QueryBinding.Number.Integer

namespace QueryBinding

/-- The parts of an address. `params` is what follows a semicolon in the last segment. -/
structure Url where
  scheme : List Char
  host : List Char
  path : List Char
  params : List Char
  query : List Char
  fragment : List Char
  deriving Repr, DecidableEq

/-- Why a text is no address. -/
inductive UrlFault where
  | bracket
  | lookalike (host : String)
  | futureAddress
  | plainAddress
  | notAddress (host : String)
  deriving Repr, DecidableEq

namespace UrlFault

def message : UrlFault → String
  | bracket => "Invalid IPv6 URL"
  | lookalike host => "netloc '" ++ host ++ "' contains invalid characters under NFKC normalization"
  | futureAddress => "IPvFuture address is invalid"
  | plainAddress => "An IPv4 address cannot be in brackets"
  | notAddress host => Text.quoteString host ++ " does not appear to be an IPv4 or IPv6 address"

end UrlFault

namespace Url

/-! ## Schemes -/

/-- Schemes under which references resolve; no scheme at all is one of them. -/
def resolving : List String := ["", "ftp", "http", "gopher", "nntp", "imap", "wais", "file",
  "https", "shttp", "mms", "prospero", "rtsp", "rtsps", "rtspu", "sftp", "svn", "svn+ssh", "ws",
  "wss"]

/-- Schemes whose addresses name a host. -/
def hosted : List String := ["", "ftp", "http", "gopher", "nntp", "telnet", "imap", "wais", "file",
  "mms", "https", "shttp", "snews", "prospero", "rtsp", "rtsps", "rtspu", "rsync", "svn",
  "svn+ssh", "sftp", "nfs", "git", "git+ssh", "ws", "wss"]

/-- Schemes whose last segment may have parameters. -/
def parametric : List String := ["", "ftp", "hdl", "prospero", "http", "imap", "https", "shttp",
  "rtsp", "rtsps", "rtspu", "sip", "sips", "mms", "sftp", "tel"]

def among (schemes : List String) (scheme : List Char) : Bool :=
  schemes.any fun s => s.toList == scheme

def isSchemeChar (c : Char) : Bool :=
  c.isAlpha || c.isDigit || c == '+' || c == '-' || c == '.'

/-! ## Splitting -/

/-- The text before the first mark, and the text after it if the mark is there. -/
def cut (isMark : Char → Bool) : List Char → List Char × Option (List Char)
  | [] => ([], none)
  | c :: cs =>
    if isMark c then ([], some cs)
    else let (before, after) := cut isMark cs
      (c :: before, after)

def splitOn (mark : Char) : List Char → List (List Char)
  | [] => [[]]
  | c :: cs =>
    if c == mark then [] :: splitOn mark cs
    else match splitOn mark cs with
      | [] => [[c]]
      | w :: ws => (c :: w) :: ws

/-- Control characters and spaces in front are dropped, and line breaks and tabs everywhere. -/
def clean (cs : List Char) : List Char :=
  (cs.dropWhile (·.toNat ≤ 32)).filter fun c => c != '\t' && c != '\r' && c != '\n'

/-- The scheme in lower case, and what follows it. -/
def takeScheme (cs : List Char) : List Char × List Char :=
  match cs, cut (· == ':') cs with
  | c :: _, (before, some after) =>
    if c.isAlpha && before.all isSchemeChar then (before.map Char.toLower, after) else ([], cs)
  | _, _ => ([], cs)

def isHostEnd (c : Char) : Bool := c == '/' || c == '?' || c == '#'

/-- The host behind two slashes, and what follows it. -/
def takeHost : List Char → List Char × List Char
  | '/' :: '/' :: cs => (cs.takeWhile (!isHostEnd ·), cs.dropWhile (!isHostEnd ·))
  | cs => ([], cs)

/-! ## Hosts in brackets -/

def isHex (c : Char) : Bool := c.isDigit || ('a' ≤ c && c ≤ 'f') || ('A' ≤ c && c ≤ 'F')

/-- One of the four numbers of a plain address. -/
def isOctet (cs : List Char) : Bool :=
  !cs.isEmpty && cs.all Char.isDigit && cs.length ≤ 3 && (cs == ['0'] || cs.head? != some '0') &&
    Text.ofDigits (cs.filterMap Text.asciiDigit?) ≤ 255

def isPlainAddress (cs : List Char) : Bool :=
  let parts := splitOn '.' cs
  parts.length == 4 && parts.all isOctet

def isGroup (cs : List Char) : Bool := !cs.isEmpty && cs.length ≤ 4 && cs.all isHex

/-- The groups of a long address, with a plain address at the end counted as two of them. -/
def groupsOf (cs : List Char) : Option (List (List Char)) :=
  let parts := splitOn ':' cs
  match parts.getLast? with
  | none => none
  | some last =>
    if parts.length < 3 then none
    else if last.contains '.' then
      if isPlainAddress last then some (parts.dropLast ++ [['0'], ['0']]) else none
    else some parts

/-- Eight groups, or fewer with one gap between colons that stands for the missing ones. -/
def isGroupList (parts : List (List Char)) : Bool :=
  let inner := (parts.drop 1).dropLast
  if parts.length > 9 then false
  else match inner.findIdx? List.isEmpty with
    | none => parts.length == 8 && parts.all isGroup
    | some i =>
      let high := parts.take (i + 1)
      let low := parts.drop (i + 2)
      let high := if high.head? == some [] then high.drop 1 else high
      let low := if low.getLast? == some [] then low.dropLast else low
      (inner.drop (i + 1)).all (!·.isEmpty) &&
        (parts.head? != some [] || high.isEmpty) && (parts.getLast? != some [] || low.isEmpty) &&
        high.length + low.length < 8 && high.all isGroup && low.all isGroup

/-- An address with an optional zone behind a percent sign. -/
def isLongAddress (cs : List Char) : Bool :=
  match cut (· == '%') cs with
  | (address, none) => (groupsOf address).any isGroupList
  | (address, some zone) =>
    !zone.isEmpty && !zone.contains '%' && (groupsOf address).any isGroupList

/-- What may stand between brackets. -/
def checkBracketed (cs : List Char) : Except UrlFault Unit :=
  match cs with
  | 'v' :: rest =>
    match rest.dropWhile isHex with
    | '.' :: _ :: _ => if (rest.takeWhile isHex).isEmpty then .error .futureAddress else .ok ()
    | _ => .error .futureAddress
  | _ =>
    if isPlainAddress cs then .error .plainAddress
    else if isLongAddress cs then .ok ()
    else .error (.notAddress (String.ofList cs))

def checkBrackets (host : List Char) : Except UrlFault Unit :=
  match host.contains '[', host.contains ']' with
  | true, true =>
    let inside := ((cut (· == '[') host).2).getD []
    checkBracketed (cut (· == ']') inside).1
  | false, false => .ok ()
  | _, _ => .error .bracket

def checkLookalikes (host : List Char) : Except UrlFault Unit :=
  if host.any Text.foldsToSeparator then .error (.lookalike (String.ofList host)) else .ok ()

/-! ## Reading and writing -/

/-- Takes an address apart, parameters left in the path. -/
def split (cs : List Char) (scheme : List Char) : Except UrlFault Url := do
  let cs := clean cs
  let (found, rest) := takeScheme cs
  let (host, rest) := takeHost rest
  checkBrackets host
  let (rest, fragment) := cut (· == '#') rest
  let (path, query) := cut (· == '?') rest
  checkLookalikes host
  return ⟨if found.isEmpty then scheme else found, host, path, [], query.getD [], fragment.getD []⟩

/-- The last segment of a path, and what comes before it with its slash. -/
def lastSegment (path : List Char) : List Char × List Char :=
  let last := (path.reverse.takeWhile (· != '/')).reverse
  (path.take (path.length - last.length), last)

/-- Moves the parameters of the last segment out of the path. -/
def withParams (u : Url) : Url :=
  if among parametric u.scheme then
    let (before, last) := lastSegment u.path
    match cut (· == ';') last with
    | (name, some params) => { u with path := before ++ name, params := params }
    | (_, none) => u
  else u

/-- Takes an address apart, with a scheme for one that has none. -/
def read (cs : List Char) (scheme : List Char) : Except UrlFault Url :=
  (split cs scheme).map withParams

/-- Puts an address together. -/
def write (u : Url) : List Char :=
  let path := if u.params.isEmpty then u.path else u.path ++ ';' :: u.params
  let withHost :=
    if !u.host.isEmpty || (!u.scheme.isEmpty && among hosted u.scheme) || path.take 2 == ['/', '/']
    then '/' :: '/' :: u.host ++
      (if path.isEmpty || path.head? == some '/' then path else '/' :: path)
    else path
  let withScheme := if u.scheme.isEmpty then withHost else u.scheme ++ ':' :: withHost
  let withQuery := if u.query.isEmpty then withScheme else withScheme ++ '?' :: u.query
  if u.fragment.isEmpty then withQuery else withQuery ++ '#' :: u.fragment

/-! ## Resolving -/

/-- Walks along segments: one dot stays, two dots go back, and anything else goes on. -/
def walk (done : List (List Char)) : List (List Char) → List (List Char)
  | [] => done
  | s :: rest =>
    if s == ['.', '.'] then walk done.dropLast rest
    else if s == ['.'] then walk done rest
    else walk (done ++ [s]) rest

/-- Segments without the empty ones between the first and the last. -/
def dropEmptyInner (segments : List (List Char)) : List (List Char) :=
  match segments with
  | [] => []
  | [s] => [s]
  | s :: rest => s :: rest.dropLast.filter (!·.isEmpty) ++ rest.getLast?.toList

/-- The segments of a reference, behind those of the directory of the base if it is relative. -/
def segmentsAgainst (base path : List Char) : List (List Char) :=
  if path.head? == some '/' then splitOn '/' path
  else
    let parts := splitOn '/' base
    let directory := if parts.getLast? == some [] then parts else parts.dropLast
    dropEmptyInner (directory ++ splitOn '/' path)

/-- The path of a reference, resolved against the path of the base. -/
def resolvePath (base path : List Char) : List Char :=
  let segments := segmentsAgainst base path
  let walked := walk [] segments
  let ends := segments.getLast?
  let walked := if ends == some ['.'] || ends == some ['.', '.'] then walked ++ [[]] else walked
  let joined := Text.joinWith ['/'] walked
  if joined.isEmpty then ['/'] else joined

/-- Resolves a reference that has parts of its own against the parts of a base. -/
def against (base reference : Url) : Url :=
  if among hosted reference.scheme && !reference.host.isEmpty then reference
  else
    let host := if among hosted reference.scheme then base.host else reference.host
    if reference.path.isEmpty && reference.params.isEmpty then
      { reference with
        host := host, path := base.path, params := base.params,
        query := if reference.query.isEmpty then base.query else reference.query }
    else { reference with host := host, path := resolvePath base.path reference.path }

/-- Resolves a reference against a base. One with a scheme of its own, or under a scheme without
hierarchy, stays as it is, and an empty one gives the base as it is. -/
def join (base reference : List Char) : Except UrlFault (List Char) := do
  if base.isEmpty then return reference
  if reference.isEmpty then return base
  let b ← read base []
  let r ← read reference b.scheme
  if r.scheme != b.scheme || !among resolving r.scheme then return reference
  return (against b r).write

/-- An absolute address has a scheme and a host. -/
def IsAbsolute (u : Url) : Prop := u.scheme ≠ [] ∧ u.host ≠ []

instance (u : Url) : Decidable u.IsAbsolute := inferInstanceAs (Decidable (_ ∧ _))

end Url

end QueryBinding
