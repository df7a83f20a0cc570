import Selenese.Fault
import Selenese.Html.Page
import Selenese.Script
import Selenese.Text.Blank

/-!
# Selenese.Script.Reader

Scripts as they are recorded: pages with a title, a link to the base URL, and a table of lines.

* `Script.ofPage` reads what a page holds: every table row of three cells is a line.
* `Script.parse` refuses a text that is blank, and nothing else.
-/

namespace Selenese

open Html

/-- Reads a text as a page, unless it is blank. -/
def pageOf (source : String) : Except Fault Node :=
  if Text.allBlank source then .error (.parse "document is empty") else .ok (Page.parse source)

namespace Script

/-- A link to the base URL; the vocabulary of HTML knows its kind in any case of letters. -/
def isBaseLink (n : Node) : Bool :=
  n.isNamed "link" &&
    (n.attribute? "rel").any fun rel =>
      if n.isHtml then Text.sameIgnoringCase rel "selenium.base" else rel == "selenium.base"

def titleOf (page : Node) : String :=
  match page.select [Node.isNamed "head", Node.isNamed "title"] with
  | [] => untitled
  | title :: _ => title.content

/-- The target of the first link to the base URL. -/
def baseUrlOf (page : Node) : String :=
  match page.select [isBaseLink] with
  | [] => ""
  | link :: _ => (link.attribute? "href").getD ""

/-- A row of three cells is a line; headings are no cells. -/
def lineOf? (row : Node) : Option Line :=
  match row.children.filter (Node.isNamed "td") with
  | [command, target, value] => some ⟨command.content, target.content, value.content⟩
  | _ => none

def linesOf (page : Node) : List Line :=
  (page.select [Node.isNamed "table", Node.isNamed "tbody", Node.isNamed "tr"]).filterMap lineOf?

def ofPage (page : Node) : Script := ⟨titleOf page, baseUrlOf page, linesOf page⟩

def parse (source : String) : Except Fault Script := return ofPage (← pageOf source)

end Script

end Selenese
