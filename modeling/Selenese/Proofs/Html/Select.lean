import Selenese.Proofs.Html.Spine

/-!
# Selenese.Proofs.Html.Select

What is looked up in a page does not depend on the text between its elements.

* `elementsOf` leaves the texts of a content out. `elementsOf_withText`: characters that are added do not
  matter to it.
* `Node.selects_elementsOf` and `Node.filter_isNamed_elementsOf`: nor do they to what is looked up.
* `Frame.content_node`: the text of an element that holds text alone.
-/

namespace Selenese.Html

def Node.isElement : Node → Bool
  | .text _ => false
  | .element .. => true

def elementsOf (ns : List Node) : List Node := ns.filter Node.isElement

theorem elementsOf_withText (t : List Char) (ns : List Node) : elementsOf (withText t ns) = elementsOf ns := by
  match t, ns with
  | [], _ => rfl
  | _ :: _, [] => rfl
  | _ :: _, .text _ :: _ => rfl
  | _ :: _, .element .. :: _ => rfl

theorem elementsOf_addText (t : List Char) (f : Frame) : elementsOf (f.addText t).content = elementsOf f.content :=
  elementsOf_withText t f.content

theorem elementsOf_push (n f : Frame) : elementsOf (f.push n.node).content = n.node :: elementsOf f.content := rfl

theorem elementsOf_reverse (ns : List Node) : elementsOf ns.reverse = (elementsOf ns).reverse :=
  List.filter_reverse ..

namespace Node

variable {conditions : List (Node → Bool)}

theorem selects_elementsOf (ns : List Node) : selects conditions (elementsOf ns) = selects conditions ns := by
  induction ns with
  | nil => rfl
  | cons n ns ih =>
    cases n with
    | text t => exact ih
    | element => exact congrArg (select conditions _ ++ ·) ih

theorem filter_isNamed_elementsOf (name : String) (ns : List Node) :
    (elementsOf ns).filter (isNamed name) = ns.filter (isNamed name) := by
  rw [elementsOf, List.filter_filter]
  congr 1
  funext n
  cases n with
  | text => rfl
  | element => exact Bool.and_true _

end Node

namespace Frame

/-- The children of an element that are elements, from the first one on. -/
theorem elementsOf_children (f : Frame) : elementsOf f.node.children = (elementsOf f.content).reverse :=
  elementsOf_reverse f.content

/-- What is looked up in an element is looked up in the elements in it. -/
theorem select_singleton (f : Frame) (c : Node → Bool) : f.node.select [c] =
    (if c f.node then [f.node] else []) ++ Node.selects [c] (elementsOf f.content).reverse := by
  rw [← f.elementsOf_children, Node.selects_elementsOf]
  rfl

theorem select_cons_cons (f : Frame) (c d : Node → Bool) (r : List (Node → Bool)) : f.node.select (c :: d :: r) =
    Node.selects (if c f.node then d :: r else c :: d :: r) (elementsOf f.content).reverse := by
  rw [← f.elementsOf_children, Node.selects_elementsOf]
  rfl

theorem isNamed_node (f : Frame) (name : String) : f.node.isNamed name = (f.name == name) := rfl

theorem content_node (name : String) (attributes : List (String × String)) (t : List Char) :
    (Frame.mk name attributes (withText t [])).node.content = String.ofList t := by
  cases t with
  | nil => rfl
  | cons c t => simp [withText, node, Node.content, Node.chars, Node.allChars]

end Frame

end Selenese.Html
