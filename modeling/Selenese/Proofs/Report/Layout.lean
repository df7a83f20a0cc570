import Selenese.Proofs.Report.Markup

/-!
# Selenese.Proofs.Report.Layout

How elements are laid out over lines.

* `Laid text es`: the lines `text` hold the elements `es`, each as a tag without content, as a text
  between tags, or as elements between lines with its tags.
* `Laid.reads`: what reads laid out elements gets them.
-/

namespace Selenese.Report.Xml

def declaration : String := "<?xml version=\"1.0\" encoding=\"utf-8\" standalone=\"no\"?>"

/-- What stands before the first element says nothing. -/
theorem moves_declaration (opened : List Element) :
    Moves declaration ⟨.content, opened⟩ ⟨.content, opened⟩ := rfl

/-- Names begin with a letter. -/
def isTagName (name : String) : Bool := isName name && name.toList.head?.any Char.isAlpha

theorem isName_of_isTagName {name : String} (h : isTagName name = true) : isName name = true :=
  (Bool.and_eq_true_iff.1 h).1

/-- The names of attributes that may stand in one tag. -/
def areKeys (names : List String) : Bool := names.all isTagName && decide names.Nodup

theorem isName_of_areKeys {pairs : List (String × String)}
    (h : areKeys (pairs.map Prod.fst) = true) : ∀ p ∈ pairs, isName p.1 = true := by
  intro p hp
  rw [areKeys, Bool.and_eq_true, List.all_eq_true] at h
  exact isName_of_isTagName (h.1 p.1 (List.mem_map_of_mem hp))

theorem areKeys_cons {name : String} {names : List String} (h : areKeys (name :: names) = true) :
    isTagName name = true ∧ name ∉ names ∧ areKeys names = true := by
  simp only [areKeys, List.all_cons, Bool.and_eq_true, decide_eq_true_eq, List.nodup_cons] at h ⊢
  exact ⟨h.1.1, h.2.1, h.1.2, h.2.2⟩

theorem areKeys_sublist {names all : List String} (h : names.Sublist all) (hall : areKeys all = true) :
    areKeys names = true := by
  simp only [areKeys, Bool.and_eq_true, List.all_eq_true, decide_eq_true_eq] at hall ⊢
  exact ⟨fun name hname => hall.1 name (h.subset hname), h.nodup hall.2⟩

inductive Laid : String → List Element → Prop where
  | nil : Laid "" []
  | append {a b : String} {es fs : List Element} : Laid a es → Laid b fs → Laid (a ++ b) (es ++ fs)
  | leaf {name : String} {pairs : List (String × String)} : isTagName name = true →
      areKeys (pairs.map Prod.fst) = true → ∀ depth,
      Laid (line depth ("<" ++ name ++ attrs pairs ++ " />")) [⟨name, pairs, "", []⟩]
  | text {name : String} : isTagName name = true → ∀ text depth,
      Laid (textElement depth name text) [⟨name, [], text, []⟩]
  | enclosed {name : String} {pairs : List (String × String)} {content : String}
      {es : List Element} : isTagName name = true → areKeys (pairs.map Prod.fst) = true →
      Laid content es → ∀ depth,
      Laid (line depth ("<" ++ name ++ attrs pairs ++ ">") ++ content ++
        line depth ("</" ++ name ++ ">")) [⟨name, pairs, "", es⟩]

namespace Laid

theorem block {name content : String} {es : List Element} (hname : isTagName name = true)
    (h : Laid content es) (depth : Nat) : Laid (Xml.block depth name content) [⟨name, [], "", es⟩] := by
  have henclosed : Laid _ [⟨name, [], "", es⟩] := .enclosed hname rfl h depth
  rw [attrs, String.append_empty] at henclosed
  exact henclosed

theorem join {α : Type} {text : α → String} {element : α → Element} (l : List α)
    (h : ∀ a ∈ l, Laid (text a) [element a]) :
    Laid (String.join (l.map text)) (l.map element) := by
  induction l with
  | nil => exact nil
  | cons a r ih =>
    rw [List.map_cons, String.join_cons]
    exact append (h a List.mem_cons_self) (ih fun b hb => h b (List.mem_cons_of_mem _ hb))

theorem reads {text : String} {es : List Element} (h : Laid text es) : Reads text es := by
  induction h with
  | nil => exact .empty
  | append _ _ ha hb => exact ha.append hb
  | leaf hname hkeys depth =>
    exact (Reads.leaf _ _ (isName_of_isTagName hname) (isName_of_areKeys hkeys)).line depth
  | text hname text depth => exact .textElement _ text (isName_of_isTagName hname) depth
  | enclosed hname hkeys _ depth ih =>
    exact .enclosed _ _ (isName_of_isTagName hname) (isName_of_areKeys hkeys) ih depth

end Laid

end Selenese.Report.Xml
