import Mathlib.Data.List.Forall2
import Selenese.Html.Node
import Selenese.Html.Open

/-!
# Selenese.Proofs.Html.Spine

What a document holds while it is read.

* A `Frame` is an open element with its content so far.
* `Document.Spine d hi latest os fs`: the open elements `os` of the document `d`, the innermost first, hold
  what the frames `fs` say. All that is in them has a number below `hi`.
* `Spine.text`, `Spine.open` and `Spine.pop`: what is left by characters, by an element that is opened, and
  by an element that is closed.
* `Spine.tree_eq`: with one element open, the tree of the document is that of its frame.
-/

namespace Selenese.Html

/-- Characters after a content, joined to the text it ends with. The content has the latest first. -/
def withText : List Char → List Node → List Node
  | [], ns => ns
  | c :: t, .text u :: r => .text (u ++ c :: t) :: r
  | c :: t, ns => .text (c :: t) :: ns

theorem withText_append (s t : List Char) (ns : List Node) : withText (s ++ t) ns = withText t (withText s ns) := by
  cases s with
  | nil => rfl
  | cons c s =>
    cases t with
    | nil => rw [List.append_nil, withText]
    | cons c' t =>
      match ns with
      | [] => rfl
      | .element .. :: r => rfl
      | .text u :: r => simp [withText]

/-- An open element of HTML, with its content so far, the latest first. -/
structure Frame where
  name : String
  attributes : List (String × String)
  content : List Node

namespace Frame

def node (f : Frame) : Node := .element (.html f.name) f.attributes f.content.reverse

def push (n : Node) (f : Frame) : Frame := { f with content := n :: f.content }

def addText (t : List Char) (f : Frame) : Frame := { f with content := withText t f.content }

theorem addText_append (s t : List Char) (f : Frame) : f.addText (s ++ t) = (f.addText s).addText t := by
  rw [addText, withText_append, addText, addText]

end Frame

namespace Document

/-- Two documents have the same elements from one number up to another. -/
def SameWithin (lo hi : Nat) (d d' : Document) : Prop :=
  ∀ i, lo ≤ i → i < hi → d'.elements[i]? = d.elements[i]?

/-- The elements from `id` up to `hi` make up a tree. -/
def Settled (d : Document) (id hi : Nat) (n : Node) : Prop :=
  ∀ d', SameWithin id hi d d' → ∀ depth, hi ≤ id + depth → d'.tree depth id = n

/-- A child with numbers from `lo` up to `hi` is a node. -/
inductive Shows (d : Document) (lo hi : Nat) : Child → Node → Prop where
  | text (reversed : List Char) : Shows d lo hi (.text reversed) (.text reversed.reverse)
  | element {id : Nat} {name : Name} {attributes : List (String × String)} {children : List Node} : lo ≤ id →
      d.Settled id hi (.element name attributes children) →
      Shows d lo hi (.element id) (.element name attributes children)

/-- The open elements hold what the frames say, where `latest` is the last content of the innermost. -/
inductive Spine (d : Document) : Nat → List Child → List Open → List Frame → Prop where
  | nil {hi : Nat} {latest : List Child} : hi = 0 → Spine d hi latest [] []
  | cons {hi : Nat} {latest : List Child} {o : Open} {f : Frame} {os : List Open} {fs : List Frame}
      (parent : Option Nat) (cs : List Child) : o.id < hi → o.name = .html f.name →
      d.elements[o.id]? = some ⟨o.name, f.attributes, parent, latest ++ cs⟩ →
      List.Forall₂ (Shows d (o.id + 1) hi) cs f.content → Spine d o.id [.element o.id] os fs →
      Spine d hi latest (o :: os) (f :: fs)

variable {d d' : Document} {lo lo' hi hi' id : Nat} {n : Node} {c : Child} {latest cs : List Child}
  {ns : List Node} {o p : Open} {f g : Frame} {os : List Open} {fs : List Frame}

theorem SameWithin.mono (h : SameWithin lo hi d d') (hlo : lo ≤ lo') (hhi : hi' ≤ hi) : SameWithin lo' hi' d d' :=
  fun i hi₁ hi₂ => h i (Nat.le_trans hlo hi₁) (Nat.lt_of_lt_of_le hi₂ hhi)

theorem Settled.mono (h : d.Settled id hi n) (hhi : hi ≤ hi') : d.Settled id hi' n :=
  fun _ hsame _ hdepth => h _ (hsame.mono Nat.le.refl hhi) _ (Nat.le_trans hhi hdepth)

theorem Settled.congr (h : d.Settled id hi n) (hsame : SameWithin id hi d d') : d'.Settled id hi n :=
  fun d'' hsame' depth hdepth => h d'' (fun i hi₁ hi₂ => (hsame' i hi₁ hi₂).trans (hsame i hi₁ hi₂)) depth hdepth

theorem Shows.mono (h : Shows d lo hi c n) (hhi : hi ≤ hi') : Shows d lo hi' c n := by
  cases h with
  | text t => exact .text t
  | element hle hn => exact .element hle (hn.mono hhi)

theorem Shows.congr (h : Shows d lo hi c n) (hsame : SameWithin lo hi d d') : Shows d' lo hi c n := by
  cases h with
  | text t => exact .text t
  | element hle hn => exact .element hle (hn.congr (hsame.mono hle Nat.le.refl))

/-- An element is settled once its children are. -/
theorem Settled.of_children {name : Name} {attributes : List (String × String)} {parent : Option Nat}
    (hlt : id < hi) (he : d.elements[id]? = some ⟨name, attributes, parent, cs⟩)
    (hcs : List.Forall₂ (Shows d (id + 1) hi) cs ns) : d.Settled id hi (.element name attributes ns.reverse) := by
  intro d' hsame depth hdepth
  obtain ⟨depth, rfl⟩ : ∃ k, depth = k + 1 := ⟨depth - 1, by omega⟩
  rw [tree, hsame id Nat.le.refl hlt, he]
  dsimp only
  rw [List.map_reverse]
  congr 2
  clear he
  -- The children have greater numbers, so less depth is enough for them.
  induction hcs with
  | nil => rfl
  | cons hc _ ih =>
    rw [List.map_cons, ih]
    cases hc with
    | text t => rfl
    | element hle hn =>
      congr 1
      exact hn d' (hsame.mono (by omega) Nat.le.refl) depth (by omega)

theorem Spine.congr (h : Spine d hi latest os fs) (hsame : SameWithin 0 hi d d') : Spine d' hi latest os fs := by
  induction h with
  | nil h => exact .nil h
  | cons parent cs hlt hname he hcs _ ih =>
    refine .cons parent cs hlt hname ((hsame _ (Nat.zero_le _) hlt).trans he) ?_
      (ih (hsame.mono Nat.le.refl (Nat.le_of_lt hlt)))
    exact hcs.imp fun _ _ hc => hc.congr (hsame.mono (Nat.zero_le _) Nat.le.refl)

theorem Spine.names (h : Spine d hi latest os fs) : os.map Open.name = fs.map fun f => .html f.name := by
  induction h with
  | nil => rfl
  | cons _ _ _ hname _ _ _ ih => rw [List.map_cons, hname, ih, List.map_cons]

/-! ## Steps -/

theorem Spine.first (name : String) (attributes : List (String × String)) :
    Spine (empty.create (.html name) attributes) 1 [] [⟨0, .html name⟩] [⟨name, attributes, []⟩] :=
  .cons none [] Nat.one_pos rfl rfl .nil (.nil rfl)

theorem getElem?_change (d : Document) (id i : Nat) (f : Element → Element) :
    (d.change id f).elements[i]? = if id = i then d.elements[i]?.map f else d.elements[i]? := by
  rw [change, Array.getElem?_modify]

theorem forall₂_join (h : List.Forall₂ (Shows d lo hi) cs ns) (x : Char) :
    List.Forall₂ (Shows d lo hi) (join (.text [x]) cs) (withText [x] ns) := by
  cases h with
  | nil => exact .cons (.text [x]) .nil
  | cons hc hr =>
    cases hc with
    | text t =>
      have ht : Shows d lo hi (.text (x :: t)) (.text (x :: t).reverse) := .text _
      rw [List.reverse_cons] at ht
      exact .cons ht hr
    | element hle hn => exact .cons (.text [x]) (.cons (.element hle hn) hr)

theorem Spine.text (h : Spine d hi [] (o :: os) (f :: fs)) (x : Char) :
    Spine (d.append o.id (.text [x])) hi [] (o :: os) (f.addText [x] :: fs) := by
  cases h with
  | cons parent cs hlt hname he hcs hrest =>
    -- What the innermost element holds has greater numbers than its own, and what is around it smaller ones.
    have hother : ∀ i, i ≠ o.id → (d.append o.id (.text [x])).elements[i]? = d.elements[i]? := by
      intro i hi
      rw [append, adopt, getElem?_change, if_neg (Ne.symm hi)]
    refine .cons parent _ hlt hname ?_ ((forall₂_join hcs x).imp fun _ _ hc => hc.congr ?_) (hrest.congr ?_)
    · rw [append, adopt, getElem?_change, if_pos rfl, he]
      rfl
    · exact fun i hi _ => hother i (by omega)
    · exact fun i _ hi => hother i (by omega)

theorem next_append (d : Document) (id : Nat) (c : Child) : (d.append id c).next = d.next := by
  cases c <;> simp [append, adopt, change, next]

theorem next_create (d : Document) (name : Name) (attributes : List (String × String)) :
    (d.create name attributes).next = d.next + 1 := by
  simp [create, next]

theorem Spine.open (h : Spine d d.next [] (o :: os) (f :: fs)) (name : String) (attributes : List (String × String)) :
    Spine ((d.create (.html name) attributes).append o.id (.element d.next)) (d.next + 1) []
      (⟨d.next, .html name⟩ :: o :: os) (⟨name, attributes, []⟩ :: f :: fs) := by
  cases h with
  | cons parent cs hlt hname he hcs hrest =>
    -- The new element gets the next number, and the one around it a child; all the others stay.
    have hparent : o.id < d.elements.size := hlt
    have hne : o.id ≠ d.elements.size := Nat.ne_of_lt hparent
    have hother : ∀ i, i < d.next → i ≠ o.id →
        ((d.create (.html name) attributes).append o.id (.element d.next)).elements[i]? = d.elements[i]? := by
      intro i hi hi'
      have hi : i < d.elements.size := hi
      rw [append, adopt, getElem?_change, getElem?_change, create, next, if_neg (Nat.ne_of_gt hi), if_neg (Ne.symm hi'),
        Array.getElem?_push, if_neg (Nat.ne_of_lt hi)]
    refine .cons (some o.id) [] (Nat.lt_succ_self _) rfl ?_ .nil
      (.cons parent cs hlt hname ?_ (hcs.imp fun _ _ hc => hc.congr ?_) (hrest.congr ?_))
    · rw [append, adopt, getElem?_change, getElem?_change, create, next, if_pos rfl, if_neg hne, Array.getElem?_push,
        if_pos rfl]
      rfl
    · rw [append, adopt, getElem?_change, getElem?_change, create, next, if_neg (Ne.symm hne), if_pos rfl,
        Array.getElem?_push, if_neg hne, he]
      rfl
    · exact fun i _ hi => hother i (Nat.lt_trans hi hlt) (by omega)
    · exact fun i hi hi' => hother i hi' (by omega)

/-- An element that is closed is content of the one around it. -/
theorem Spine.pop (h : Spine d hi [] (o :: p :: os) (f :: g :: fs)) :
    Spine d hi [] (p :: os) (g.push f.node :: fs) := by
  cases h with
  | cons _ _ hlt hname he hcs hrest =>
    cases hrest with
    | cons parent cs hlt' hname' he' hcs' hrest =>
      have hsettled := Settled.of_children hlt he hcs
      rw [hname] at hsettled
      refine .cons parent (.element o.id :: cs) (Nat.lt_trans hlt' hlt) hname' he'
        (.cons (.element hlt' hsettled) ?_) hrest
      exact hcs'.imp fun _ _ hc => hc.mono (Nat.le_of_lt hlt)

theorem Spine.tree_eq (h : Spine d d.next [] [o] [f]) : d.tree (d.next + 1) 0 = f.node := by
  cases h with
  | cons _ _ hlt hname he hcs hrest =>
    have hsettled := Settled.of_children hlt he hcs
    rw [hname] at hsettled
    cases hrest with
    | nil hroot =>
      rw [hroot] at hsettled
      exact hsettled d (fun _ _ _ => rfl) _ (by omega)

end Document

end Selenese.Html
