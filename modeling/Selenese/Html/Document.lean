/-!
# Selenese.Html.Document

A page while it is read: a store of elements that know their parent and their children.

* Elements are numbered in the order of their creation, and never deleted.
* `append`, `insertBefore`, `detach` and `moveChildren` place them; text has no number and stays where it is put.
-/

namespace Selenese.Html

/-- The vocabulary that a name belongs to. -/
inductive Vocabulary where
  | html
  | math
  | svg
deriving DecidableEq, Repr

structure Name where
  vocabulary : Vocabulary
  name : String
deriving DecidableEq, Repr

inductive Child where
  /-- Characters, the latest first. -/
  | text (reversed : List Char)
  | element (id : Nat)
deriving DecidableEq, Repr

structure Element where
  name : Name
  attributes : List (String × String)
  parent : Option Nat
  /-- The latest first. -/
  children : List Child
deriving Repr

structure Document where
  elements : Array Element

namespace Document

def empty : Document := ⟨#[]⟩

/-- The number of the next element. -/
def next (d : Document) : Nat := d.elements.size

def create (d : Document) (name : Name) (attributes : List (String × String)) : Document :=
  ⟨d.elements.push ⟨name, attributes, none, []⟩⟩

def change (d : Document) (id : Nat) (f : Element → Element) : Document := ⟨d.elements.modify id f⟩

def parent? (d : Document) (id : Nat) : Option Nat := d.elements[id]?.bind Element.parent

/-- Puts an element or characters in front of others; characters join characters. -/
def join : Child → List Child → List Child
  | .text new, .text old :: r => .text (new ++ old) :: r
  | c, r => c :: r

/-- Places a child after, or in the reversed order before, an element of a list. -/
def placeBefore (sibling : Nat) (c : Child) : List Child → List Child
  | [] => [c]
  | .element id :: r => if id = sibling then .element id :: join c r else .element id :: placeBefore sibling c r
  | t :: r => t :: placeBefore sibling c r

/-- Notes the parent of a child that is an element. -/
def adopt (d : Document) (parent : Nat) : Child → Document
  | .element id => d.change id fun e => { e with parent := some parent }
  | .text _ => d

def append (d : Document) (parent : Nat) (c : Child) : Document :=
  (d.change parent fun e => { e with children := join c e.children }).adopt parent c

def insertBefore (d : Document) (parent sibling : Nat) (c : Child) : Document :=
  (d.change parent fun e => { e with children := placeBefore sibling c e.children }).adopt parent c

/-- Takes an element away from its parent. -/
def detach (d : Document) (id : Nat) : Document :=
  match d.parent? id with
  | none => d
  | some p =>
    (d.change p fun e => { e with children := e.children.filter (· ≠ .element id) }).change id
      fun e => { e with parent := none }

/-- Gives the children of an element to another that has none. -/
def moveChildren (d : Document) (source target : Nat) : Document :=
  let children := (d.elements[source]?.map Element.children).getD []
  let d := (d.change source fun e => { e with children := [] }).change target fun e => { e with children := children }
  children.foldl (fun d c => d.adopt target c) d

end Document

end Selenese.Html
