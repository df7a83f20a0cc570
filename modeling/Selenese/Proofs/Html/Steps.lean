import Selenese.Proofs.Html.Stands

/-!
# Selenese.Proofs.Html.Steps

What the tags of a page with a table do, one after the other.

* `Stands.page` to `Stands.openBody`: the head of the page, with a link and a title.
* `Stands.openTable` and `Stands.closeCell`: what the body and a cell hold.
* `Stands.closeBody`, `Stands.closePage` and `Stands.finish`: the end of the page.
* `Awaits.openSection` to `Awaits.closeTable`: a table, its section, its rows and their cells. The white space before
  a tag gets into its place with the tag.
-/

namespace Selenese.Html

/-- An element that was just opened, without attributes. -/
def Frame.plain (name : String) : Frame := ⟨name, [], []⟩

namespace Builder

variable {b : Builder} {m : Mode} {f f' g : Frame} {fs : List Frame} {names : List String} {t : List Char}

namespace Stands

/-! ## The innermost element -/

theorem exists_isAny (h : b.Stands m (f :: fs)) : ∃ o os, b.stack = o :: os ∧
    ∀ names : List String, o.name.isAny names = names.contains f.name := by
  obtain ⟨o, os, hstack, hname⟩ := h.exists_stack
  refine ⟨o, os, hstack, fun names => ?_⟩
  rw [hname]
  rfl

theorem clearTo_eq (h : b.Stands m (f :: fs)) (hf : names.contains f.name = true) : b.clearTo names = b := by
  obtain ⟨o, os, hstack, hany⟩ := h.exists_isAny
  rw [clearTo, Open.clearTo, hstack, List.dropWhile_cons_of_neg (by rw [hany, hf]; decide), ← hstack]

theorem hasInScope_eq (h : b.Stands m (f :: fs)) (hf : names.contains f.name = true) (limit : Limit) :
    b.hasInScope limit names = true := by
  obtain ⟨o, os, hstack, hany⟩ := h.exists_isAny
  rw [hasInScope, Open.hasInScope, hstack, Open.inScope, hany, hf, Bool.true_or]

theorem popUntil_eq (h : b.Stands m (f :: fs)) (hf : names.contains f.name = true) : b.popUntil names = b.pop := by
  obtain ⟨o, os, hstack, hany⟩ := h.exists_isAny
  rw [popUntil, hstack, Open.popUntil, hany, if_pos hf, Builder.pop, hstack, List.drop_one, List.tail_cons]

theorem closeImplied_eq (h : b.Stands m (f :: fs)) (hf : impliedEnds.contains f.name = false) (spared : String) :
    b.closeImplied spared = b := by
  obtain ⟨o, os, hstack, hany⟩ := h.exists_isAny
  rw [closeImplied, Open.closeImplied, hstack,
    List.dropWhile_cons_of_neg (by rw [hany, hf]; exact Bool.false_ne_true), ← hstack]

theorem exists_two (h : b.Stands m [f, g]) :
    ∃ o p, b.stack = [o, p] ∧ o.name = .html f.name ∧ p.name = .html g.name := by
  have hnames := h.spine.names
  obtain ⟨o, os, hstack, ho⟩ := h.exists_stack
  rw [hstack] at hnames
  obtain ⟨p, rfl, hp⟩ := List.map_eq_singleton_iff.1 (List.cons.inj hnames).2
  exact ⟨o, p, hstack, ho, hp⟩

/-! ## The head -/

/-- The page begins. -/
theorem page : (accept start (.opening ⟨"html", [], false⟩)).Stands .beforeHead [.plain "html"] := by
  have haccept : accept start (.opening ⟨"html", [], false⟩) =
      Rules.openPage { start with legacy := true, mode := .beforeHtml } [] :=
    Builder.accept_eq rfl (.again rfl (.done (n := 0) rfl)) (by decide)
  rw [haccept]
  exact ⟨rfl, rfl, (by simp), rfl, rfl, rfl, rfl, Document.Spine.first "html" []⟩

/-- White space is left out. -/
theorem blank (h : b.Stands .beforeHead (f :: fs)) {c : Char} (hc : isSpace c = true) : accept b (.char c) = b :=
  h.accept_eq (t := .char c) (if_pos hc)

theorem openHead (h : b.Stands .beforeHead (f :: fs)) :
    (accept b (.opening ⟨"head", [], false⟩)).Stands .inHead (.plain "head" :: f :: fs) := by
  have hnew := h.insert ⟨"head", [], false⟩
  rw [h.accept_eq rfl]
  exact ⟨rfl, hnew.lexing, (by simp), hnew.formatting, hnew.keepsLineFeed, hnew.inPlace, hnew.pending, hnew.spine⟩

theorem link (h : b.Stands .inHead (f :: fs)) (attributes : List (String × String)) :
    (accept b (.opening ⟨"link", attributes, true⟩)).Stands .inHead
      (f.push (Frame.mk "link" attributes []).node :: fs) := by
  rw [h.accept_eq rfl]
  exact (h.insert _).pop

theorem openTitle (h : b.Stands .inHead (f :: fs)) :
    (accept b (.opening ⟨"title", [], false⟩)).Stands .inText (.plain "title" :: f :: fs) := by
  have hnew := h.insert ⟨"title", [], false⟩
  rw [h.accept_eq rfl]
  exact ⟨rfl, rfl, fun _ => h.mode, hnew.formatting, hnew.keepsLineFeed, hnew.inPlace, hnew.pending, hnew.spine⟩

theorem closeTitle (h : b.Stands .inText (f :: g :: fs)) (name : String) :
    (accept { b with lexing := .data } (.closing name)).Stands .inHead (g.push f.node :: fs) := by
  have hdone : dispatch (.closing name) { b with lexing := .data } =
      .done { b.pop with lexing := .data, mode := b.resumed } :=
    dispatch_of_current (b := { b with lexing := .data }) h.current_eq h.mode _
  have hpop := h.pop
  rw [Builder.accept_eq (b := { b with lexing := .data }) h.keepsLineFeed (.done (n := 0) hdone) (by decide)]
  exact ⟨h.resumed rfl, rfl, (by simp), hpop.formatting, hpop.keepsLineFeed, hpop.inPlace, hpop.pending, hpop.spine⟩

theorem closeHead (h : b.Stands .inHead (f :: g :: fs)) :
    (accept b (.closing "head")).Stands .afterHead (g.push f.node :: fs) := by
  rw [h.accept_eq rfl]
  exact h.pop.withMode (by decide) (by decide)

theorem openBody (h : b.Stands .afterHead (f :: fs)) :
    (accept b (.opening ⟨"body", [], false⟩)).Stands .inBody (.plain "body" :: f :: fs) := by
  rw [h.accept_eq rfl]
  exact (h.insert _).noFrames.withMode (by decide) (by decide)

/-! ## The table -/

theorem openTable (h : b.Stands .inBody [f, g]) (hf : f.name = "body") (hg : g.name = "html") :
    (accept b (.opening ⟨"table", [], false⟩)).Stands .inTable [.plain "table", f, g] := by
  obtain ⟨o, p, hstack, ho, hp⟩ := h.exists_two
  have hscope : b.hasInScope .button ["p"] = false := by
    rw [hasInScope, hstack, Open.hasInScope, Open.inScope, Open.inScope, ho, hp, hf, hg]
    rfl
  have hparagraph : (if b.legacy then b else b.closeParagraph) = b := by
    rw [closeParagraph, hscope]
    exact ite_self b
  rw [h.accept_eq rfl]
  show ((Builder.insert (if b.legacy then b else b.closeParagraph) _).noFrames.withMode .inTable).Stands _ _
  rw [hparagraph]
  exact (h.insert _).noFrames.withMode (by decide) (by decide)

theorem closeCell (h : b.Stands .inCell (f :: g :: fs)) (hf : f.name = "td") :
    (accept b (.closing "td")).Stands .inRow (g.push f.node :: fs) := by
  have hpop := h.pop
  rw [h.accept_eq rfl]
  show (if b.hasInScope .table ["td"] then Rules.closeCell ["td"] b else b).Stands _ _
  rw [if_pos (h.hasInScope_eq (by rw [hf]; rfl) _), Rules.closeCell, Builder.close,
    h.closeImplied_eq (by rw [hf]; rfl), h.popUntil_eq (by rw [hf]; rfl), clearFormatting, hpop.formatting]
  exact ⟨rfl, hpop.lexing, (by simp), rfl, hpop.keepsLineFeed, hpop.inPlace, hpop.pending, hpop.spine⟩

/-! ## The end -/

theorem closeBody (h : b.Stands .inBody (f :: fs)) (hf : f.name = "body") :
    (accept b (.closing "body")).Stands .afterBody (f :: fs) := by
  rw [h.accept_eq rfl]
  show (if b.hasInScope .general ["body"] then b.withMode .afterBody else b).Stands _ _
  rw [if_pos (h.hasInScope_eq (by rw [hf]; rfl) _)]
  exact h.withMode (by decide) (by decide)

theorem closePage (h : b.Stands .afterBody (f :: fs)) :
    (accept b (.closing "html")).Stands .afterAfterBody (f :: fs) := by
  rw [h.accept_eq rfl]
  exact h.withMode (by decide) (by decide)

theorem finish (h : b.Stands .afterAfterBody (f :: fs)) : accept b .finish = b := h.accept_eq rfl

end Stands

/-! ## The parts of the table -/

namespace Awaits

theorem openSection (h : b.Awaits .inTable t (f :: fs)) (hf : f.name = "table") :
    (accept b (.opening ⟨"tbody", [], false⟩)).Stands .inTableBody (.plain "tbody" :: f.addText t :: fs) := by
  obtain ⟨b₁, h₁, haccept⟩ := h.accept_eq (.opening ⟨"tbody", [], false⟩) (by simp)
  rw [haccept _ rfl, h₁.clearTo_eq (by rw [Frame.addText, hf]; rfl)]
  exact (h₁.insert _).withMode (by decide) (by decide)

theorem openRow (h : b.Awaits .inTableBody t (f :: fs)) (hf : f.name = "tbody") :
    (accept b (.opening ⟨"tr", [], false⟩)).Stands .inRow (.plain "tr" :: f.addText t :: fs) := by
  obtain ⟨b₁, h₁, haccept⟩ := h.accept_eq (.opening ⟨"tr", [], false⟩) (by simp)
  rw [haccept _ rfl, Rules.clearToSection, h₁.clearTo_eq (by rw [Frame.addText, hf]; rfl)]
  exact (h₁.insert _).withMode (by decide) (by decide)

theorem openCell (h : b.Awaits .inRow t (f :: fs)) (hf : f.name = "tr") :
    (accept b (.opening ⟨"td", [], false⟩)).Stands .inCell (.plain "td" :: f.addText t :: fs) := by
  obtain ⟨b₁, h₁, haccept⟩ := h.accept_eq (.opening ⟨"td", [], false⟩) (by simp)
  have hnew := h₁.insert ⟨"td", [], false⟩
  rw [haccept _ rfl, Rules.clearToRow, h₁.clearTo_eq (by rw [Frame.addText, hf]; rfl)]
  have hformatting := congrArg (Mark.barrier :: ·) hnew.formatting
  exact ⟨rfl, hnew.lexing, (by simp), hformatting, hnew.keepsLineFeed, hnew.inPlace, hnew.pending, hnew.spine⟩

theorem closeRow (h : b.Awaits .inRow t (f :: g :: fs)) (hf : f.name = "tr") :
    (accept b (.closing "tr")).Stands .inTableBody (g.push (f.addText t).node :: fs) := by
  obtain ⟨b₁, h₁, haccept⟩ := h.accept_eq (.closing "tr") (by simp)
  have hname : (f.addText t).name = "tr" := hf
  rw [haccept _ (if_pos (h₁.hasInScope_eq (by rw [hname]; rfl) _)), Rules.clearToRow,
    h₁.clearTo_eq (by rw [hname]; rfl)]
  exact h₁.pop.withMode (by decide) (by decide)

theorem closeSection (h : b.Awaits .inTableBody t (f :: g :: fs)) (hf : f.name = "tbody") :
    (accept b (.closing "tbody")).Stands .inTable (g.push (f.addText t).node :: fs) := by
  obtain ⟨b₁, h₁, haccept⟩ := h.accept_eq (.closing "tbody") (by simp)
  have hname : (f.addText t).name = "tbody" := hf
  rw [haccept _ rfl]
  show (if b₁.hasInScope .table ["tbody"] then (Rules.clearToSection b₁).pop.withMode .inTable else b₁).Stands _ _
  rw [if_pos (h₁.hasInScope_eq (by rw [hname]; rfl) _), Rules.clearToSection, h₁.clearTo_eq (by rw [hname]; rfl)]
  exact h₁.pop.withMode (by decide) (by decide)

theorem closeTable (h : b.Awaits .inTable t [f, g, f']) (hf : f.name = "table") (hg : g.name = "body") :
    (accept b (.closing "table")).Stands .inBody [g.push (f.addText t).node, f'] := by
  obtain ⟨b₁, h₁, haccept⟩ := h.accept_eq (.closing "table") (by simp)
  have hname : (f.addText t).name = "table" := hf
  obtain ⟨o, p, hstack, ho, hp⟩ := h₁.pop.exists_two
  have hmode : b₁.pop.modeOf b₁.pop.stack = .inBody := by
    rw [hstack, modeOf, ho, show (g.push _).name = "body" from hg]
    rfl
  rw [haccept _ rfl]
  show (if b₁.hasInScope .table ["table"] then Rules.closeTable b₁ else b₁).Stands _ _
  rw [if_pos (h₁.hasInScope_eq (by rw [hname]; rfl) _), Rules.closeTable, h₁.popUntil_eq (by rw [hname]; rfl),
    resetMode, hmode]
  exact h₁.pop.withMode (by decide) (by decide)

end Awaits

end Builder

end Selenese.Html
