import Selenese.Html.Document

/-!
# Selenese.Html.Open

The elements that are open while a page is read, the innermost first.

* The sets of names that the rules of reading refer to.
* `inScope` looks for an element up to the next limit; `popUntil` and its companions close elements.
-/

namespace Selenese.Html

/-- An open element: its number and its name. -/
structure Open where
  id : Nat
  name : Name
deriving DecidableEq, Repr

namespace Name

def html (name : String) : Name := ⟨.html, name⟩

/-- An element of HTML with one of these names. -/
def isAny (n : Name) (names : List String) : Bool := n.vocabulary == .html && names.contains n.name

def is (n : Name) (name : String) : Bool := n == html name

/-- A foreign element whose text is read as that of an HTML element. -/
def holdsText (n : Name) : Bool :=
  n.vocabulary == .math && ["mi", "mo", "mn", "ms", "mtext"].contains n.name

/-- A foreign element whose content is read as HTML. -/
def holdsHtml (n : Name) : Bool :=
  n.vocabulary == .svg && ["foreignobject", "desc", "title"].contains n.name

end Name

def headings : List String := ["h1", "h2", "h3", "h4", "h5", "h6"]

/-- Elements with an end that may be left out. -/
def impliedEnds : List String := ["dd", "dt", "li", "option", "optgroup", "p", "rb", "rp", "rt", "rtc"]

/-- Elements that an end tag of another name does not close. -/
def special : List String := [
  "address", "applet", "area", "article", "aside", "base", "basefont", "bgsound", "blockquote", "body", "br",
  "button", "caption", "center", "col", "colgroup", "dd", "details", "dir", "div", "dl", "dt", "embed",
  "fieldset", "figcaption", "figure", "footer", "form", "frame", "frameset", "h1", "h2", "h3", "h4", "h5",
  "h6", "head", "header", "hgroup", "hr", "html", "iframe", "img", "input", "isindex", "li", "link", "listing",
  "main", "marquee", "menu", "meta", "nav", "noembed", "noframes", "noscript", "object", "ol", "p", "param",
  "plaintext", "pre", "script", "section", "select", "source", "style", "summary", "table", "tbody", "td",
  "template", "textarea", "tfoot", "th", "thead", "title", "tr", "track", "ul", "wbr", "xmp"]

/-- Where the search for an open element ends. -/
inductive Limit where
  | general
  | button
  | listItem
  | table
  | select

def Limit.stops (n : Name) : Limit → Bool
  | .general => general
  | .button => general || n.is "button"
  | .listItem => general || n.isAny ["ol", "ul"]
  | .table => n.isAny ["html", "table", "template"]
  | .select => !n.isAny ["optgroup", "option"]
where
  general : Bool :=
    n.isAny ["applet", "caption", "html", "table", "td", "th", "marquee", "object", "template"]
      || n.holdsText || n.holdsHtml

namespace Open

/-- Whether an element is open within a limit. -/
def inScope (limit : Limit) (wanted : Open → Bool) : List Open → Bool
  | [] => false
  | o :: r => wanted o || (!limit.stops o.name && inScope limit wanted r)

def hasInScope (limit : Limit) (names : List String) (l : List Open) : Bool :=
  inScope limit (fun o => o.name.isAny names) l

/-- Whether an element of a name is open anywhere. -/
def has (name : String) (l : List Open) : Bool := l.any fun o => o.name.is name

/-- Closes elements up to and with the first of some names. -/
def popUntil (names : List String) : List Open → List Open
  | [] => []
  | o :: r => if o.name.isAny names then r else popUntil names r

/-- Closes elements down to the first of some names, which stays open. -/
def clearTo (names : List String) (l : List Open) : List Open := l.dropWhile fun o => !o.name.isAny names

/-- Closes the elements whose ends may be left out, up to one of a name that is spared. -/
def closeImplied (names : List String) (spared : String) (l : List Open) : List Open :=
  l.dropWhile fun o => o.name.isAny names && o.name.name != spared

def remove (id : Nat) (l : List Open) : List Open := l.filter fun o => o.id ≠ id

end Open

end Selenese.Html
