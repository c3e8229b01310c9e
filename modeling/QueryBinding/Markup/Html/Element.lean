-- What is known about the elements of a page by their names: which are always
-- empty, which end others that were left open, and which may be ended by whom.

namespace QueryBinding.Markup.Html

/-- Elements with nothing inside. -/
def isVoid (name : String) : Bool :=
  ["area", "base", "basefont", "br", "col", "frame", "hr", "img", "input", "isindex", "link",
    "meta", "param"].contains name

/-- Attributes that say something by being there. -/
def isSwitch (name : String) : Bool :=
  ["checked", "compact", "declare", "defer", "disabled", "ismap", "multiple", "nohref", "noresize",
    "noshade", "nowrap", "readonly", "selected"].contains name

def headings : List String := ["h1", "h2", "h3", "h4", "h5", "h6"]

def fontStyles : List String := ["tt", "i", "b", "u", "s", "strike", "big", "small"]

/-- Elements that stand in the body only, so that the head is over when they begin. -/
def endsHead (name : String) : Bool :=
  ["a", "abbr", "acronym", "address", "b", "bdo", "big", "blockquote", "body", "br", "center",
    "cite", "code", "dd", "dfn", "dir", "div", "dl", "dt", "em", "fieldset", "font", "form",
    "frameset", "h1", "h2", "h3", "h4", "h5", "h6", "hr", "i", "iframe", "img", "kbd", "li",
    "listing", "map", "menu", "ol", "p", "pre", "q", "s", "samp", "small", "span", "strike",
    "strong", "sub", "sup", "table", "tt", "u", "ul", "var", "xmp"].contains name

/-- The elements, besides the head, that are over when an element begins inside them. -/
def ended : String → List String
  | "form" =>
    ["form", "p", "hr", "dl", "ul", "ol", "menu", "dir", "address", "pre", "listing", "xmp"]
      ++ headings
  | "head" => ["p"]
  | "title" => ["p"]
  | "body" => ["style", "title", "link", "p"]
  | "frameset" => ["style", "title", "link", "p"]
  | "li" => ["p", "dl", "address", "pre", "listing", "xmp", "li"] ++ headings
  | "hr" => ["p"]
  | "h1" => ["p"]
  | "h2" => ["p"]
  | "h3" => ["p"]
  | "h4" => ["p"]
  | "h5" => ["p"]
  | "h6" => ["p"]
  | "dir" => ["p"]
  | "address" => ["p", "ul"]
  | "pre" => ["p", "ul"]
  | "listing" => ["p"]
  | "xmp" => ["p"]
  | "blockquote" => ["p"]
  | "dl" => ["p", "dt", "menu", "dir", "address", "pre", "listing", "xmp"]
  | "dt" => ["p", "menu", "dir", "address", "pre", "listing", "xmp", "dd"]
  | "dd" => ["p", "menu", "dir", "address", "pre", "listing", "xmp", "dt"]
  | "ul" => ["p", "menu", "dir", "address", "pre", "listing"]
  | "ol" => ["p"]
  | "menu" => ["p", "ul"]
  | "p" => "p" :: headings ++ fontStyles
  | "div" => ["p"]
  | "noscript" => ["script"]
  | "center" => ["font", "b", "i", "p"]
  | "a" => ["a"]
  | "caption" => ["p"]
  | "colgroup" => ["caption", "colgroup", "col", "p"]
  | "col" => ["caption", "col", "p"]
  | "table" => ["p", "pre", "listing", "xmp", "a"] ++ headings
  | "th" => ["th", "td", "p", "span", "font", "a", "b", "u"]
  | "td" => ["th", "td", "p", "span", "font", "a", "b", "u"]
  | "tr" => ["th", "td", "tr", "caption", "col", "colgroup", "p"]
  | "thead" => ["caption", "col", "colgroup"]
  | "tfoot" => ["th", "td", "tr", "caption", "col", "colgroup", "thead", "tbody", "p"]
  | "tbody" => ["th", "td", "tr", "caption", "col", "colgroup", "thead", "tfoot", "tbody", "p"]
  | "optgroup" => ["option"]
  | "option" => ["option"]
  | "fieldset" => ["legend", "p", "pre", "listing", "xmp", "a"] ++ headings
  | _ => []

/-- Whether an open element is over when another begins. -/
def ends (new old : String) : Bool := (old == "head" && endsHead new) || (ended new).contains old

/-- How much an element holds together: its end passes over open elements that do not weigh more. -/
def weight : String → Nat
  | "div" => 150
  | "td" => 160
  | "th" => 160
  | "tr" => 170
  | "thead" => 180
  | "tbody" => 180
  | "tfoot" => 180
  | "table" => 190
  | "head" => 200
  | "body" => 200
  | "html" => 220
  | _ => 100

/-- Elements of the head. -/
def isHeadOnly (name : String) : Bool :=
  ["script", "style", "meta", "link", "title", "base"].contains name

/-- Elements of a page of frames, which has no body. -/
def isFrame (name : String) : Bool := ["noframes", "frame", "frameset"].contains name

/-- Elements that stand for themselves on a page and do not flow inside a line. -/
def isBlock (name : String) : Bool :=
  ["address", "article", "aside", "blockquote", "center", "dd", "details", "dialog", "dir", "div",
    "dl", "dt", "fieldset", "figcaption", "figure", "footer", "form", "frameset", "h1", "h2", "h3",
    "h4", "h5", "h6", "header", "hgroup", "hr", "isindex", "li", "main", "menu", "nav", "noframes",
    "noscript", "ol", "p", "pre", "section", "summary", "table", "tbody", "td", "tfoot", "th",
    "thead", "tr", "ul"].contains name

end QueryBinding.Markup.Html
