import Selenese.Html.Document

/-!
# Selenese.Html.Node

A page that was read, as a tree, and what can be looked up in it.

* `Document.tree` is the tree below an element.
* `Node.text` is all the text in a node.
* `Node.select` finds elements by the elements that they stand in.
-/

namespace Selenese.Html

inductive Node where
  | text (text : List Char)
  | element (name : Name) (attributes : List (String × String)) (children : List Node)

/-- The tree below an element; `depth` bounds how far it goes down. -/
def Document.tree (d : Document) : (depth : Nat) → (id : Nat) → Node
  | 0, _ => .text []
  | depth + 1, id =>
    match d.elements[id]? with
    | none => .text []
    | some e =>
      .element e.name e.attributes (e.children.reverse.map fun
        | .text reversed => .text reversed.reverse
        | .element child => tree d depth child)

namespace Node

mutual

def chars : Node → List Char
  | .text t => t
  | .element _ _ children => allChars children

def allChars : List Node → List Char
  | [] => []
  | n :: r => chars n ++ allChars r

end

/-- The text in a node, from left to right. -/
def content (n : Node) : String := String.ofList (chars n)

def isNamed (name : String) : Node → Bool
  | .text _ => false
  | .element n _ _ => n.name == name

/-- Whether an element belongs to the vocabulary of HTML. -/
def isHtml : Node → Bool
  | .text _ => false
  | .element n _ _ => n.vocabulary == .html

def attribute? (n : Node) (name : String) : Option String :=
  match n with
  | .text _ => none
  | .element _ attributes _ => attributes.lookup name

def children : Node → List Node
  | .text _ => []
  | .element _ _ children => children

/-- The words of a class attribute. -/
def classes (n : Node) : List (List Char) := go [] ((n.attribute? "class").getD "").toList
where
  go (word : List Char) : List Char → List (List Char)
    | [] => [word.reverse]
    | c :: r =>
      if c == '\t' || c == '\n' || c == '\x0c' || c == '\x0d' || c == ' ' then word.reverse :: go [] r
      else go (c :: word) r

mutual

/-- The elements that fit the last of some conditions and stand in elements that fit the others, from the
outside in; in the order of the page. -/
def select (conditions : List (Node → Bool)) (n : Node) : List Node :=
  match n, conditions with
  | .text _, _ => []
  | _, [] => []
  | .element name attributes children, [c] =>
    let n := element name attributes children
    (if c n then [n] else []) ++ selects [c] children
  | .element name attributes children, c :: d :: r =>
    selects (if c (.element name attributes children) then d :: r else c :: d :: r) children

def selects (conditions : List (Node → Bool)) : List Node → List Node
  | [] => []
  | n :: r => select conditions n ++ selects conditions r

end

end Node

end Selenese.Html
