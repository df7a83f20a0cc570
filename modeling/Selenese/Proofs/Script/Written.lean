import Selenese.Proofs.Html.Markup
import Selenese.Script

/-!
# Selenese.Proofs.Script.Written

Scripts that are written as pages.

* `Script.page` writes a title, a base URL and rows of texts as a page with one table. A `Layout` says what white
  space follows the tags.
* `Script.lineOfTexts?`: the line that a row stands for.
* `Script.normalize_page`: a page without carriage returns is read as it is written.
-/

namespace Selenese

open Html

namespace Script

/-! ## Writing -/

/-- White space without carriage returns. -/
def IsGap (l : List Char) : Prop := ∀ c ∈ l, isSpace c = true ∧ c ≠ '\x0d'

instance (l : List Char) : Decidable (IsGap l) :=
  decidable_of_iff (l.all fun c => isSpace c && c != '\x0d') (by simp [IsGap])

/-- The white space after the opening tags, and after the closing tags, by the name of the element. -/
structure Layout where
  opened : String → List Char
  closed : String → List Char
  opened_gap : ∀ name, IsGap (opened name)
  closed_gap : ∀ name, IsGap (closed name)

/-- No white space at all. -/
def Layout.compact : Layout := ⟨fun _ => [], fun _ => [], by simp [IsGap], by simp [IsGap]⟩

/-- Each row on a line of its own. -/
def Layout.linewise : Layout where
  opened name := if name = "tbody" then ['\n'] else []
  closed name := if name = "tr" then ['\n'] else []
  opened_gap _ := by split <;> decide
  closed_gap _ := by split <;> decide

def cellText (g : Layout) (text : String) : List Char :=
  openTag "td" ++ escape text ++ closeTag "td" ++ g.closed "td"

def rowText (g : Layout) (texts : List String) : List Char :=
  openTag "tr" ++ g.opened "tr" ++ texts.flatMap (cellText g) ++ closeTag "tr" ++ g.closed "tr"

def linkAttributes (baseUrl : String) : List (String × String) := [("rel", "selenium.base"), ("href", baseUrl)]

def headText (g : Layout) (title baseUrl : String) : List Char :=
  openTag "head" ++ g.opened "head" ++ voidTag "link" (linkAttributes baseUrl) ++ g.opened "link"
    ++ openTag "title" ++ escape title ++ closeTag "title" ++ g.closed "title" ++ closeTag "head" ++ g.closed "head"

def tableText (g : Layout) (rows : List (List String)) : List Char :=
  openTag "table" ++ g.opened "table" ++ openTag "tbody" ++ g.opened "tbody" ++ rows.flatMap (rowText g)
    ++ closeTag "tbody" ++ g.closed "tbody" ++ closeTag "table" ++ g.closed "table"

def pageText (g : Layout) (title baseUrl : String) (rows : List (List String)) : List Char :=
  openTag "html" ++ g.opened "html" ++ headText g title baseUrl ++ openTag "body" ++ g.opened "body"
    ++ tableText g rows ++ closeTag "body" ++ g.closed "body" ++ closeTag "html" ++ g.closed "html"

/-- A page with a link to the base URL, a title, and a table of rows of texts. -/
def page (g : Layout) (title baseUrl : String) (rows : List (List String)) : String :=
  String.ofList (pageText g title baseUrl rows)

example : page .compact "A & B" "http://a/" [["open", "/", ""], []] =
    "<html><head><link rel=\"selenium.base\" href=\"http://a/\" /><title>A &amp; B</title></head><body><table>" ++
      "<tbody><tr><td>open</td><td>/</td><td></td></tr><tr></tr></tbody></table></body></html>" := by
  decide +kernel

/-- A text that a page can hold as it is. -/
def IsText (s : String) : Prop := '\x00' ∉ s.toList ∧ '\x0d' ∉ s.toList

instance (s : String) : Decidable (IsText s) := inferInstanceAs (Decidable (_ ∧ _))

/-- Rows of three texts are lines. -/
def lineOfTexts? : List String → Option Line
  | [command, target, value] => some ⟨command, target, value⟩
  | _ => none

/-! ## Characters -/

theorem IsGap.zero_not_mem {l : List Char} (h : IsGap l) : '\x00' ∉ l :=
  fun hmem => absurd (h _ hmem).1 (by decide)

theorem IsGap.flatMap_escapeChar {l : List Char} (h : IsGap l) : l.flatMap escapeChar = l := by
  induction l with
  | nil => rfl
  | cons c l ih =>
    have hname : referenceName? c = none := by
      have hc := (h c List.mem_cons_self).1
      cases hname : referenceName? c with
      | none => rfl
      | some name =>
        unfold referenceName? at hname
        split_ifs at hname <;> subst c <;> cases hc
    rw [List.flatMap_cons, escapeChar_of_none hname, ih fun d hd => h d (List.mem_cons_of_mem _ hd),
      List.singleton_append]

theorem cr_not_mem_escape {text : String} (h : IsText text) : '\x0d' ∉ escape text := by
  intro hmem
  obtain ⟨c, hc, hcr⟩ := List.mem_flatMap.1 hmem
  rcases mem_escapeChar hcr with ⟨rfl, -⟩ | heq | heq | heq
  · exact h.2 hc
  all_goals exact absurd heq (by decide)

theorem Layout.cr_not_mem_opened (g : Layout) (name : String) : '\x0d' ∉ g.opened name :=
  fun hmem => (g.opened_gap name _ hmem).2 rfl

theorem Layout.cr_not_mem_closed (g : Layout) (name : String) : '\x0d' ∉ g.closed name :=
  fun hmem => (g.closed_gap name _ hmem).2 rfl

theorem cr_not_mem_headText (g : Layout) {title baseUrl : String} (htitle : IsText title) (hbase : IsText baseUrl) :
    '\x0d' ∉ headText g title baseUrl := by
  have htitle := cr_not_mem_escape htitle
  have hrel : '\x0d' ∉ attributeText ("rel", "selenium.base") := by decide
  have hhref : '\x0d' ∉ attributeText ("href", baseUrl) := by
    have hbase := cr_not_mem_escape hbase
    simp only [attributeText, List.mem_append, List.mem_cons, not_or]
    and_intros <;> first | assumption | decide
  simp only [headText, voidTag, linkAttributes, List.flatMap_cons, List.flatMap_nil, List.mem_append, not_or]
  and_intros <;> first | exact g.cr_not_mem_opened _ | exact g.cr_not_mem_closed _ | assumption | decide

theorem cr_not_mem_rowText (g : Layout) {texts : List String} (htexts : ∀ text ∈ texts, IsText text) :
    '\x0d' ∉ rowText g texts := by
  have hcells : '\x0d' ∉ texts.flatMap (cellText g) := by
    intro hmem
    obtain ⟨text, htext, hcell⟩ := List.mem_flatMap.1 hmem
    have htext := cr_not_mem_escape (htexts text htext)
    revert hcell
    simp only [cellText, List.mem_append, imp_false, not_or]
    and_intros <;> first | exact g.cr_not_mem_closed _ | assumption | decide
  simp only [rowText, List.mem_append, not_or]
  and_intros <;> first | exact g.cr_not_mem_opened _ | exact g.cr_not_mem_closed _ | assumption | decide

theorem cr_not_mem_pageText (g : Layout) {title baseUrl : String} {rows : List (List String)} (htitle : IsText title)
    (hbase : IsText baseUrl) (hrows : ∀ texts ∈ rows, ∀ text ∈ texts, IsText text) :
    '\x0d' ∉ pageText g title baseUrl rows := by
  have hhead := cr_not_mem_headText g htitle hbase
  have hall : '\x0d' ∉ rows.flatMap (rowText g) := by
    intro hmem
    obtain ⟨texts, htexts, hrow⟩ := List.mem_flatMap.1 hmem
    exact cr_not_mem_rowText g (hrows texts htexts) hrow
  simp only [pageText, tableText, List.mem_append, not_or]
  and_intros <;> first | exact g.cr_not_mem_opened _ | exact g.cr_not_mem_closed _ | assumption | decide

theorem lines_eq {l : List Char} (h : '\x0d' ∉ l) : Html.normalize.lines l = l := by
  induction l with
  | nil => rfl
  | cons c l ih =>
    obtain ⟨hc, hl⟩ := not_or.1 (mt List.mem_cons.2 h)
    rw [Html.normalize.lines, ih hl]
    all_goals
      intros
      subst_vars
      exact absurd rfl hc

theorem pageText_eq_cons (g : Layout) (title baseUrl : String) (rows : List (List String)) :
    ∃ l, pageText g title baseUrl rows = '<' :: l := ⟨_, rfl⟩

theorem normalize_page (g : Layout) {title baseUrl : String} {rows : List (List String)} (htitle : IsText title)
    (hbase : IsText baseUrl) (hrows : ∀ texts ∈ rows, ∀ text ∈ texts, IsText text) :
    Html.normalize (page g title baseUrl rows) = pageText g title baseUrl rows := by
  have hlines := lines_eq (cr_not_mem_pageText g htitle hbase hrows)
  rw [Html.normalize, page, String.toList_ofList]
  split
  · next heq =>
    obtain ⟨l, hl⟩ := pageText_eq_cons g title baseUrl rows
    exact absurd (List.cons.inj (hl.symm.trans heq)).1 (by decide)
  · exact hlines

end Script

end Selenese
