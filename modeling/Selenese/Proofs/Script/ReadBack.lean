import Selenese.Proofs.Html.Select
import Selenese.Proofs.Html.Steps
import Selenese.Proofs.Script.Written
import Selenese.Script.Reader

/-!
# Selenese.Proofs.Script.ReadBack

Scripts that are written as pages and read again.

* `Script.exists_head`, `Script.exists_cells`, `Script.exists_rows` and `Script.exists_table`: how the parts of the
  page are read.
* `Script.IsPage`: what the tree of the page holds, whatever white space there is. `Script.isPage_parse`: the page that
  is read is so.
* `Script.parse_page`: the title and the base URL are read as they were written, and every row of three texts is a
  line with these texts.
-/

namespace Selenese

open Html Html.Builder

namespace Script

/-! ## White space -/

variable {b : Builder} {m : Mode} {f : Frame} {fs : List Frame} {l t : List Char}

theorem exists_gap (h : b.Stands m (f :: fs)) (hm : ∀ c, isSpace c = true → m.Takes c) (hl : IsGap l) (r : List Char) :
    ∃ b', Reads (l ++ r) b r b' ∧ b'.Stands m (f.addText l :: fs) := by
  have htext := h.text (fun c hc => hm c (hl c hc).1) hl.zero_not_mem r
  rwa [hl.flatMap_escapeChar] at htext

theorem exists_tableGap (h : b.Stands m (f :: fs)) (hm : m ∈ inTables) (name : String) (hf : f.name = name)
    (hname : name ∈ ["table", "tbody", "tfoot", "thead", "tr"]) (hl : IsGap l) (r : List Char) :
    ∃ b', Reads (l ++ r) b r b' ∧ b'.Awaits m l (f :: fs) := by
  have htext := Awaits.text h hm (hf ▸ hname) (fun c hc => (hl c hc).1) r
  rwa [hl.flatMap_escapeChar] at htext

theorem reads_blank (h : b.Stands .beforeHead (f :: fs)) (hl : IsGap l) (r : List Char) : Reads (l ++ r) b r b := by
  have hdecodes : b.lexing.Decodes := by
    rw [h.lexing]
    trivial
  obtain ⟨b', hreads, rfl⟩ := Reads.text (P := fun _ b' => b' = b) (fun _ _ heq => heq ▸ hdecodes)
    (fun _ b' c hc heq => heq ▸ h.blank (hl c hc).1) hl.zero_not_mem r rfl
  rwa [hl.flatMap_escapeChar] at hreads

/-! ## The head -/

def linkFrame (baseUrl : String) : Frame := ⟨"link", linkAttributes baseUrl, []⟩

def titleFrame (title : String) : Frame := (Frame.plain "title").addText title.toList

def headFrame (g : Layout) (title baseUrl : String) : Frame :=
  ((((((Frame.plain "head").addText (g.opened "head")).push (linkFrame baseUrl).node).addText (g.opened "link")).push
    (titleFrame title).node).addText (g.closed "title"))

theorem plain_linkAttributes {baseUrl : String} (hbase : IsText baseUrl) :
    ∀ a ∈ linkAttributes baseUrl, IsPlain a.1 ∧ '\x00' ∉ a.2.toList := by
  simp only [linkAttributes, List.forall_mem_cons, List.not_mem_nil, false_imp_iff, forall_const, and_true]
  exact ⟨⟨by decide, by decide⟩, by decide, hbase.1⟩

theorem exists_head (g : Layout) {title baseUrl : String} (htitle : IsText title) (hbase : IsText baseUrl)
    (h : b.Stands .beforeHead (f :: fs)) (r : List Char) : ∃ b', Reads (headText g title baseUrl ++ r) b r b' ∧
      b'.Stands .afterHead ((f.push (headFrame g title baseUrl).node).addText (g.closed "head") :: fs) := by
  simp only [headText, List.append_assoc]
  -- What stands after each tag, and the reading of the tags and of what is between them put together.
  have hhead := h.openHead
  obtain ⟨b₁, hreads₁, h₁⟩ := exists_gap hhead (fun _ => id) (g.opened_gap "head") _
  have hlink := h₁.link (linkAttributes baseUrl)
  obtain ⟨b₂, hreads₂, h₂⟩ := exists_gap hlink (fun _ => id) (g.opened_gap "link") _
  have htext := h₂.openTitle
  obtain ⟨b₃, hreads₃, h₃⟩ := htext.text (l := title.toList) (fun _ _ => trivial) htitle.1 _
  have hclose := h₃.closeTitle "title"
  obtain ⟨b₄, hreads₄, h₄⟩ := exists_gap hclose (fun _ => id) (g.closed_gap "title") _
  have hafter := h₄.closeHead
  obtain ⟨b₅, hreads₅, h₅⟩ := exists_gap hafter (fun _ => id) (g.closed_gap "head") r
  refine ⟨b₅, ?_, h₅⟩
  refine (Reads.openTag h.lexing (by decide) _).trans (hreads₁.trans ?_)
  have hnames : ["rel", "href"].Nodup := by decide
  refine (Reads.voidTag h₁.lexing (by decide) (plain_linkAttributes hbase) hnames _).trans (hreads₂.trans ?_)
  refine (Reads.openTag h₂.lexing (by decide) _).trans (hreads₃.trans ?_)
  refine (Reads.endText h₃.lexing (by decide) _).trans (hreads₄.trans ?_)
  exact (Reads.closeTag h₄.lexing (by decide) _).trans hreads₅

/-! ## The table -/

def cellFrame (text : String) : Frame := (Frame.plain "td").addText text.toList

/-- A row of cells with these texts, with white space between them. -/
def IsRow (texts : List String) (n : Node) : Prop :=
  ∃ f : Frame, n = f.node ∧ f.name = "tr" ∧ elementsOf f.content = (texts.map fun text => (cellFrame text).node).reverse

theorem exists_cells (g : Layout) {texts : List String} (htexts : ∀ text ∈ texts, IsText text) (r : List Char)
    (h : b.Awaits .inRow t (f :: fs)) (hf : f.name = "tr") :
    ∃ b' t' f', Reads (texts.flatMap (cellText g) ++ r) b r b' ∧ b'.Awaits .inRow t' (f' :: fs) ∧ f'.name = "tr" ∧
      elementsOf f'.content = (texts.map fun text => (cellFrame text).node).reverse ++ elementsOf f.content := by
  induction texts generalizing b t f with
  | nil => exact ⟨b, t, f, .refl _ _, h, hf, rfl⟩
  | cons text texts ih =>
    obtain ⟨htext, htexts⟩ := List.forall_mem_cons.1 htexts
    simp only [List.flatMap_cons, cellText, List.append_assoc]
    have hopen := h.openCell hf
    obtain ⟨b₁, hreads₁, h₁⟩ := hopen.text (l := text.toList) (fun _ _ => trivial) htext.1 _
    have hclose := h₁.closeCell rfl
    obtain ⟨b₂, hreads₂, h₂⟩ := exists_tableGap hclose (by decide) "tr" hf (by decide) (g.closed_gap "td") _
    obtain ⟨b₃, t₃, f₃, hreads₃, h₃, hname₃, hcontent₃⟩ := ih htexts h₂ hf
    refine ⟨b₃, t₃, f₃, ?_, h₃, hname₃, ?_⟩
    · refine (Reads.openTag h.lexing (by decide) _).trans (hreads₁.trans ?_)
      exact (Reads.closeTag h₁.lexing (by decide) _).trans (hreads₂.trans hreads₃)
    · rw [hcontent₃, List.map_cons, List.reverse_cons, List.append_assoc, List.singleton_append]
      exact congrArg (_ ++ (cellFrame text).node :: ·) (elementsOf_addText t f)

theorem exists_rows (g : Layout) {rows : List (List String)} (hrows : ∀ texts ∈ rows, ∀ text ∈ texts, IsText text)
    (r : List Char) (h : b.Awaits .inTableBody t (f :: fs)) (hf : f.name = "tbody") :
    ∃ b' t' f' ns, Reads (rows.flatMap (rowText g) ++ r) b r b' ∧ b'.Awaits .inTableBody t' (f' :: fs) ∧
      f'.name = "tbody" ∧ List.Forall₂ IsRow rows ns ∧ elementsOf f'.content = ns.reverse ++ elementsOf f.content := by
  induction rows generalizing b t f with
  | nil => exact ⟨b, t, f, [], .refl _ _, h, hf, .nil, rfl⟩
  | cons texts rows ih =>
    obtain ⟨htexts, hrows⟩ := List.forall_mem_cons.1 hrows
    simp only [List.flatMap_cons, rowText, List.append_assoc]
    have hopen := h.openRow hf
    obtain ⟨b₁, hreads₁, h₁⟩ := exists_tableGap hopen (by decide) "tr" rfl (by decide) (g.opened_gap "tr") _
    obtain ⟨b₂, t₂, f₂, hreads₂, h₂, hname₂, hcontent₂⟩ := exists_cells g htexts _ h₁ rfl
    have hclose := h₂.closeRow hname₂
    obtain ⟨b₃, hreads₃, h₃⟩ := exists_tableGap hclose (by decide) "tbody" hf (by decide)
      (g.closed_gap "tr") _
    obtain ⟨b₄, t₄, f₄, ns, hreads₄, h₄, hname₄, hns, hcontent₄⟩ := ih hrows h₃ hf
    have hrow : IsRow texts (f₂.addText t₂).node := by
      refine ⟨f₂.addText t₂, rfl, hname₂, ?_⟩
      rw [elementsOf_addText, hcontent₂]
      exact List.append_nil _
    refine ⟨b₄, t₄, f₄, _ :: ns, ?_, h₄, hname₄, .cons hrow hns, ?_⟩
    · refine (Reads.openTag h.lexing (by decide) _).trans (hreads₁.trans (hreads₂.trans ?_))
      exact (Reads.closeTag h₂.lexing (by decide) _).trans (hreads₃.trans hreads₄)
    · rw [hcontent₄, List.reverse_cons, List.append_assoc, List.singleton_append]
      exact congrArg (ns.reverse ++ (f₂.addText t₂).node :: ·) (elementsOf_addText t f)

/-- A table of one section that holds these rows. -/
def IsTable (rows : List (List String)) (n : Node) : Prop :=
  ∃ table part : Frame, ∃ ns, n = table.node ∧ table.name = "table" ∧ elementsOf table.content = [part.node] ∧
    part.name = "tbody" ∧ elementsOf part.content = ns.reverse ∧ List.Forall₂ IsRow rows ns

theorem exists_table (g : Layout) {rows : List (List String)} (hrows : ∀ texts ∈ rows, ∀ text ∈ texts, IsText text)
    (r : List Char) {f' : Frame} (h : b.Stands .inBody [f, f']) (hf : f.name = "body") (hf' : f'.name = "html") :
    ∃ b' n, Reads (tableText g rows ++ r) b r b' ∧ IsTable rows n ∧
      b'.Stands .inBody [(f.push n).addText (g.closed "table"), f'] := by
  simp only [tableText, List.append_assoc]
  have htable := h.openTable hf hf'
  obtain ⟨b₁, hreads₁, h₁⟩ := exists_tableGap htable (by decide) "table" rfl (by decide) (g.opened_gap "table") _
  have hsection := h₁.openSection rfl
  obtain ⟨b₂, hreads₂, h₂⟩ := exists_tableGap hsection (by decide) "tbody" rfl (by decide) (g.opened_gap "tbody") _
  obtain ⟨b₃, t₃, f₃, ns, hreads₃, h₃, hname₃, hns, hcontent₃⟩ := exists_rows g hrows _ h₂ rfl
  have hclose := h₃.closeSection hname₃
  obtain ⟨b₄, hreads₄, h₄⟩ := exists_tableGap hclose (by decide) "table" rfl (by decide) (g.closed_gap "tbody") _
  have hend := h₄.closeTable rfl hf
  obtain ⟨b₅, hreads₅, h₅⟩ := exists_gap hend (fun _ _ => trivial) (g.closed_gap "table") r
  refine ⟨b₅, _, ?_, ⟨_, f₃.addText t₃, ns, rfl, rfl, ?_, hname₃, ?_, hns⟩, h₅⟩
  · refine (Reads.openTag h.lexing (by decide) _).trans (hreads₁.trans ?_)
    refine (Reads.openTag h₁.lexing (by decide) _).trans (hreads₂.trans (hreads₃.trans ?_))
    refine (Reads.closeTag h₃.lexing (by decide) _).trans (hreads₄.trans ?_)
    exact (Reads.closeTag h₄.lexing (by decide) _).trans hreads₅
  · rw [elementsOf_addText]
    exact congrArg (_ :: ·) (elementsOf_addText _ (Frame.plain "table"))
  · rw [elementsOf_addText, hcontent₃]
    exact List.append_nil _

/-! ## The page -/

/-- A page with a head and a table. -/
def IsPage (title baseUrl : String) (rows : List (List String)) (n : Node) : Prop :=
  ∃ g page body table, n = (page : Frame).node ∧ page.name = "html" ∧
    elementsOf page.content = [(body : Frame).node, (headFrame g title baseUrl).node] ∧ body.name = "body" ∧
    elementsOf body.content = [table] ∧ IsTable rows table

theorem exists_page (g : Layout) {title baseUrl : String} {rows : List (List String)} (htitle : IsText title)
    (hbase : IsText baseUrl) (hrows : ∀ texts ∈ rows, ∀ text ∈ texts, IsText text) :
    ∃ b table, Reads (pageText g title baseUrl rows) start [] b ∧ IsTable rows table ∧ ∃ t t' t'',
      b.Stands .afterAfterBody [(((Frame.plain "body").addText t).push table).addText t',
        ((Frame.plain "html").push (headFrame g title baseUrl).node).addText t''] := by
  rw [← List.append_nil (pageText g title baseUrl rows)]
  simp only [pageText, List.append_assoc]
  have hpage := Stands.page
  have hblank := reads_blank hpage (g.opened_gap "html")
  obtain ⟨b₁, hreads₁, h₁⟩ := exists_head g htitle hbase hpage _
  have hbody := h₁.openBody
  obtain ⟨b₂, hreads₂, h₂⟩ := exists_gap hbody (fun _ _ => trivial) (g.opened_gap "body") _
  obtain ⟨b₃, table, hreads₃, htable, h₃⟩ := exists_table g hrows _ h₂ rfl rfl
  have hafter := h₃.closeBody rfl
  obtain ⟨b₄, hreads₄, h₄⟩ := exists_gap hafter (fun _ => id) (g.closed_gap "body") _
  have hend := h₄.closePage
  obtain ⟨b₅, hreads₅, h₅⟩ := exists_gap hend (fun _ => id) (g.closed_gap "html") _
  rw [← Frame.addText_append, ← Frame.addText_append] at h₅
  refine ⟨b₅, table, ?_, htable, _, _, _, h₅⟩
  refine (Reads.openTag rfl (by decide) _).trans ((hblank _).trans (hreads₁.trans ?_))
  refine (Reads.openTag h₁.lexing (by decide) _).trans (hreads₂.trans (hreads₃.trans ?_))
  refine (Reads.closeTag h₃.lexing (by decide) _).trans (hreads₄.trans ?_)
  exact (Reads.closeTag h₄.lexing (by decide) _).trans hreads₅

theorem isPage_parse (g : Layout) {title baseUrl : String} {rows : List (List String)} (htitle : IsText title)
    (hbase : IsText baseUrl) (hrows : ∀ texts ∈ rows, ∀ text ∈ texts, IsText text) :
    IsPage title baseUrl rows (Page.parse (page g title baseUrl rows)) := by
  obtain ⟨b, table, hreads, htable, t, t', t'', hb⟩ := exists_page g htitle hbase hrows
  have hread : start.read ((pageText g title baseUrl rows).length + 1) (pageText g title baseUrl rows) = b :=
    (hreads.finish hb.lexing).trans hb.finish
  -- The body is still open at the end; closing it does not change the tree.
  obtain ⟨o, p, hstack, -, -⟩ := hb.exists_two
  have hspine := hb.spine
  rw [hstack] at hspine
  have htree := hspine.pop.tree_eq
  rw [Page.parse, normalize_page g htitle hbase hrows, hread]
  refine ⟨g, _, (((Frame.plain "body").addText t).push table).addText t', table, htree, rfl, ?_, rfl, ?_, htable⟩
  · exact congrArg (_ :: ·) (elementsOf_addText t'' ((Frame.plain "html").push (headFrame g title baseUrl).node))
  · obtain ⟨f, -, -, rfl, -⟩ := htable
    rw [elementsOf_addText]
    exact congrArg (f.node :: ·) (elementsOf_addText t (Frame.plain "body"))

/-! ## Reading out -/

variable {title baseUrl : String} {rows : List (List String)} {n : Node}

theorem elementsOf_headFrame (g : Layout) (title baseUrl : String) :
    elementsOf (headFrame g title baseUrl).content = [(titleFrame title).node, (linkFrame baseUrl).node] := by
  simp only [headFrame, elementsOf_addText, elementsOf_push]
  rfl

theorem elementsOf_titleFrame (title : String) : elementsOf (titleFrame title).content = [] :=
  elementsOf_addText _ (Frame.plain "title")

theorem titleOf_of_isPage (h : IsPage title baseUrl rows n) : titleOf n = title := by
  obtain ⟨g, page, body, table, rfl, hpage, helements, -⟩ := h
  have hhead : (headFrame g title baseUrl).node.select [Node.isNamed "head", Node.isNamed "title"] =
      [(titleFrame title).node] := by
    rw [Frame.select_cons_cons, if_pos (show Node.isNamed "head" _ = true from rfl), elementsOf_headFrame]
    show (linkFrame baseUrl).node.select [Node.isNamed "title"] ++
      ((titleFrame title).node.select [Node.isNamed "title"] ++ []) = _
    rw [Frame.select_singleton, Frame.select_singleton, elementsOf_titleFrame]
    rfl
  have hselect : page.node.select [Node.isNamed "head", Node.isNamed "title"] =
      (titleFrame title).node :: Node.selects [Node.isNamed "head", Node.isNamed "title"] [body.node] := by
    rw [Frame.select_cons_cons, helements, Frame.isNamed_node, hpage, if_neg (by decide)]
    show (headFrame g title baseUrl).node.select _ ++ _ = _
    rw [hhead]
    rfl
  rw [titleOf, hselect]
  exact (Frame.content_node "title" [] title.toList).trans String.ofList_toList

theorem baseUrlOf_of_isPage (h : IsPage title baseUrl rows n) : baseUrlOf n = baseUrl := by
  obtain ⟨g, page, body, table, rfl, hpage, helements, -⟩ := h
  have hlink : isBaseLink (linkFrame baseUrl).node = true :=
    show Text.sameIgnoringCase "selenium.base" "selenium.base" = true from beq_self_eq_true _
  have hhead : ∃ r, (headFrame g title baseUrl).node.select [isBaseLink] = (linkFrame baseUrl).node :: r := by
    rw [Frame.select_singleton, if_neg (by exact Bool.false_ne_true), elementsOf_headFrame]
    show ∃ r, [] ++ ((linkFrame baseUrl).node.select [isBaseLink] ++ _) = _
    rw [Frame.select_singleton, if_pos hlink]
    exact ⟨_, rfl⟩
  have hselect : ∃ r, page.node.select [isBaseLink] = (linkFrame baseUrl).node :: r := by
    obtain ⟨r, hr⟩ := hhead
    rw [Frame.select_singleton, helements, isBaseLink, Frame.isNamed_node, hpage]
    show ∃ r, [] ++ ((headFrame g title baseUrl).node.select [isBaseLink] ++ _) = _
    rw [hr]
    exact ⟨_, rfl⟩
  obtain ⟨r, hr⟩ := hselect
  rw [baseUrlOf, hr]
  rfl

theorem content_cellFrame (text : String) : (cellFrame text).node.content = text :=
  (Frame.content_node "td" [] text.toList).trans String.ofList_toList

theorem lineOf?_of_isRow {texts : List String} (h : IsRow texts n) : lineOf? n = lineOfTexts? texts := by
  obtain ⟨f, rfl, -, hcells⟩ := h
  have hall : ((texts.map fun text => (cellFrame text).node).filter (Node.isNamed "td")) =
      texts.map fun text => (cellFrame text).node := by
    rw [List.filter_eq_self]
    intro n hn
    obtain ⟨text, -, rfl⟩ := List.mem_map.1 hn
    rfl
  rw [lineOf?, ← Node.filter_isNamed_elementsOf, f.elementsOf_children, hcells, List.reverse_reverse, hall]
  match texts with
  | [] | [_] | [_, _] | _ :: _ :: _ :: _ :: _ => rfl
  | [command, target, value] =>
    simp only [List.map_cons, List.map_nil, content_cellFrame, lineOfTexts?]

theorem filterMap_lineOf? {ns : List Node} (h : List.Forall₂ IsRow rows ns) :
    ns.filterMap lineOf? = rows.filterMap lineOfTexts? := by
  induction h with
  | nil => rfl
  | cons hrow _ ih => rw [List.filterMap_cons, List.filterMap_cons, lineOf?_of_isRow hrow, ih]

/-- No row stands in a cell. -/
theorem selects_cells (texts : List String) :
    Node.selects [Node.isNamed "tr"] (texts.map fun text => (cellFrame text).node) = [] := by
  induction texts with
  | nil => rfl
  | cons text texts ih =>
    have hcell : elementsOf (cellFrame text).content = [] := elementsOf_addText _ (Frame.plain "td")
    rw [List.map_cons, Node.selects, ih, Frame.select_singleton, hcell]
    rfl

theorem selects_rows {ns : List Node} (h : List.Forall₂ IsRow rows ns) :
    Node.selects [Node.isNamed "tr"] ns = ns := by
  induction h with
  | nil => rfl
  | cons hrow _ ih =>
    obtain ⟨f, rfl, hname, hcells⟩ := hrow
    rw [Node.selects, ih, Frame.select_singleton, hcells, List.reverse_reverse, selects_cells, Frame.isNamed_node,
      hname]
    rfl

theorem select_table {table : Node} (h : IsTable rows table) : ∃ ns, List.Forall₂ IsRow rows ns ∧
    table.select [Node.isNamed "table", Node.isNamed "tbody", Node.isNamed "tr"] = ns := by
  obtain ⟨table, part, ns, rfl, htable, hpart, hname, hrows, hns⟩ := h
  refine ⟨ns, hns, ?_⟩
  rw [Frame.select_cons_cons, hpart, Frame.isNamed_node, htable, if_pos (by decide)]
  show part.node.select [Node.isNamed "tbody", Node.isNamed "tr"] ++ [] = ns
  rw [List.append_nil, Frame.select_cons_cons, hrows, List.reverse_reverse, Frame.isNamed_node, hname,
    if_pos (by decide), selects_rows hns]

theorem linesOf_of_isPage (h : IsPage title baseUrl rows n) : linesOf n = rows.filterMap lineOfTexts? := by
  obtain ⟨g, page, body, table, rfl, hpage, helements, hbody, hcontent, htable⟩ := h
  obtain ⟨ns, hns, hselect⟩ := select_table htable
  have hhead : (headFrame g title baseUrl).node.select
      [Node.isNamed "table", Node.isNamed "tbody", Node.isNamed "tr"] = [] := by
    rw [Frame.select_cons_cons, elementsOf_headFrame]
    show (linkFrame baseUrl).node.select [Node.isNamed "table", Node.isNamed "tbody", Node.isNamed "tr"] ++
      ((titleFrame title).node.select [Node.isNamed "table", Node.isNamed "tbody", Node.isNamed "tr"] ++ []) = []
    rw [Frame.select_cons_cons, Frame.select_cons_cons, elementsOf_titleFrame]
    rfl
  have hinner : body.node.select [Node.isNamed "table", Node.isNamed "tbody", Node.isNamed "tr"] = ns := by
    rw [Frame.select_cons_cons, hcontent, Frame.isNamed_node, hbody, if_neg (by decide)]
    show table.select _ ++ [] = ns
    rw [List.append_nil, hselect]
  rw [linesOf, Frame.select_cons_cons, helements, Frame.isNamed_node, hpage, if_neg (by decide)]
  show ((headFrame g title baseUrl).node.select _ ++ (body.node.select _ ++ [])).filterMap lineOf? = _
  rw [hhead, hinner, List.append_nil, List.nil_append, filterMap_lineOf? hns]

/-- **Scripts are read as they were written.** Let a page with a title, a link to the base URL and one table of rows
of texts be written with the white space of any layout between its tags. Reading it succeeds and answers just that
title and that base URL; the lines are the rows of three texts, in order, with every character as it was. A row of any
other number of texts adds nothing. -/
theorem parse_page (g : Layout) {title baseUrl : String} {rows : List (List String)} (htitle : IsText title)
    (hbase : IsText baseUrl) (hrows : ∀ texts ∈ rows, ∀ text ∈ texts, IsText text) :
    parse (page g title baseUrl rows) = .ok ⟨title, baseUrl, rows.filterMap lineOfTexts?⟩ := by
  have hpage := isPage_parse g htitle hbase hrows
  have hblank : Text.allBlank (page g title baseUrl rows) = false := by
    obtain ⟨l, hl⟩ := pageText_eq_cons g title baseUrl rows
    rw [Text.allBlank, page, String.toList_ofList, hl, List.all_cons]
    rfl
  rw [parse, pageOf, hblank]
  show Except.ok (ofPage (Page.parse (page g title baseUrl rows))) = _
  rw [ofPage, titleOf_of_isPage hpage, baseUrlOf_of_isPage hpage, linesOf_of_isPage hpage]

/-- A page with each row on a line of its own. Two rows are lines, one of them with blanks and with characters that
are written as references, or look as if they were; the others have too few texts or too many. -/
theorem parse_page_two :
    parse (page .linewise "\n \"A\" < B" "http://a/?b=1&lt=2" [["open", "/", ""], ["note"], [],
        [" ", "a<b>\n", "&amp; &#x41; '"], ["1", "2", "3", "4"]]) =
      .ok ⟨"\n \"A\" < B", "http://a/?b=1&lt=2", [⟨"open", "/", ""⟩, ⟨" ", "a<b>\n", "&amp; &#x41; '"⟩]⟩ :=
  parse_page .linewise (by decide) (by decide) (by decide)

end Script

end Selenese
