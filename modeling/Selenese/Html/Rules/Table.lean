import Selenese.Html.Rules.Body

/-!
# Selenese.Html.Rules.Table

The rules for tables. What a table cannot hold goes before it.
-/

namespace Selenese.Html.Rules

open Builder

def sections : List String := ["tbody", "tfoot", "thead"]

def cells : List String := ["td", "th"]

/-- Elements that are opened or closed from outside of what they stand in. -/
def tableParts : List String := [
  "caption", "col", "colgroup", "tbody", "td", "tfoot", "th", "thead", "tr"]

/-- Reads a token as in the body, with its content put before the table. -/
def misplacedInTable (t : Token) (b : Builder) : Progress :=
  match inBody t { b with fostering := true } with
  | .done b => .done { b with fostering := false }
  | .again b => .again { b with fostering := false }

def closeTable (b : Builder) : Builder := (b.popUntil ["table"]).resetMode

def tableTag (t : Tag) (b : Builder) : Progress :=
  let b' := b.clearTo ["table", "template", "html"]
  match t.name with
  | "caption" => .done ((b'.addBarrier.insert t).withMode .inCaption)
  | "colgroup" => .done ((b'.insert t).withMode .inColumns)
  | "col" => .again ((b'.insertPlain "colgroup").withMode .inColumns)
  | "tbody" | "tfoot" | "thead" => .done ((b'.insert t).withMode .inTableBody)
  | "td" | "th" | "tr" => .again ((b'.insertPlain "tbody").withMode .inTableBody)
  | "table" => if b.hasInScope .table ["table"] then .again (closeTable b) else .done b
  | "style" | "script" | "template" => .done (headTag t b)
  | "input" => if isHidden t then .done (b.insertVoid t) else misplacedInTable (.opening t) b
  | "form" =>
    if b.hasOpen "template" || b.form.isSome then .done b
    else .done { b.insertVoid t with form := some b.document.next }
  | _ => misplacedInTable (.opening t) b

def inTable (t : Token) (b : Builder) : Progress :=
  match t with
  | .char _ =>
    if b.current.isAny ["table", "tbody", "tfoot", "thead", "tr"] then
      .again { b with resumed := b.mode, mode := .inTableText }
    else misplacedInTable t b
  | .comment | .doctype _ => .done b
  | .opening t => tableTag t b
  | .closing name =>
    if name = "table" then .done (if b.hasInScope .table ["table"] then closeTable b else b)
    else if name = "template" then .done (endTemplate b)
    else if name = "body" ∨ name = "html" ∨ tableParts.contains name then .done b
    else misplacedInTable t b
  | .finish => b.finishTemplates

/-- White space stays in the table; with any other character, all of the text goes before it. -/
def placePending (b : Builder) : Builder :=
  let text := b.pending.reverse
  let b := { b with pending := [], mode := b.resumed }
  if text.all isSpace then text.foldl insertChar b
  else { text.foldl (fun b c => bodyChar c b) { b with fostering := true } with fostering := false }

def inTableText (t : Token) (b : Builder) : Progress :=
  match t with
  | .char c => .done (if c = '\x00' then b else { b with pending := c :: b.pending })
  | _ => .again (placePending b)

def inCaption (t : Token) (b : Builder) : Progress :=
  match t with
  | .opening tag => if tableParts.contains tag.name then leave .again else inBody t b
  | .closing name =>
    if name = "caption" then leave .done
    else if name = "table" then leave .again
    else if name = "body" ∨ name = "html" ∨ tableParts.contains name then .done b
    else inBody t b
  | _ => inBody t b
where
  leave (go : Builder → Progress) : Progress :=
    if b.hasInScope .table ["caption"] then go ((b.close ["caption"]).clearFormatting.withMode .inTable)
    else .done b

def inColumns (t : Token) (b : Builder) : Progress :=
  match t with
  | .char c => if isSpace c then .done (b.insertChar c) else other
  | .comment | .doctype _ => .done b
  | .opening t =>
    match t.name with
    | "html" => .done b
    | "col" => .done (b.insertVoid t)
    | "template" => .done (headTag t b)
    | _ => other
  | .closing name =>
    match name with
    | "colgroup" => .done (if b.currentIs "colgroup" then b.pop.withMode .inTable else b)
    | "col" => .done b
    | "template" => .done (endTemplate b)
    | _ => other
  | .finish => b.finishTemplates
where
  other : Progress := if b.currentIs "colgroup" then .again (b.pop.withMode .inTable) else .done b

def clearToSection (b : Builder) : Builder := b.clearTo (sections ++ ["template", "html"])

def inTableBody (t : Token) (b : Builder) : Progress :=
  match t with
  | .opening tag =>
    if tag.name = "tr" then .done (((clearToSection b).insert tag).withMode .inRow)
    else if cells.contains tag.name then .again (((clearToSection b).insertPlain "tr").withMode .inRow)
    else if tableParts.contains tag.name then leave
    else inTable t b
  | .closing name =>
    if sections.contains name then
      .done (if b.hasInScope .table [name] then (clearToSection b).pop.withMode .inTable else b)
    else if name = "table" then leave
    else if name = "body" ∨ name = "html" ∨ tableParts.contains name then .done b
    else inTable t b
  | _ => inTable t b
where
  leave : Progress :=
    if b.hasInScope .table sections then .again ((clearToSection b).pop.withMode .inTable) else .done b

def clearToRow (b : Builder) : Builder := b.clearTo ["tr", "template", "html"]

def inRow (t : Token) (b : Builder) : Progress :=
  match t with
  | .opening tag =>
    if cells.contains tag.name then .done (((clearToRow b).insert tag).withMode .inCell).addBarrier
    else if tableParts.contains tag.name then leave .again
    else inTable t b
  | .closing name =>
    if name = "tr" then leave .done
    else if name = "table" then leave .again
    else if sections.contains name then
      if b.hasInScope .table [name] then leave .again else .done b
    else if name = "body" ∨ name = "html" ∨ tableParts.contains name then .done b
    else inTable t b
  | _ => inTable t b
where
  leave (go : Builder → Progress) : Progress :=
    if b.hasInScope .table ["tr"] then go ((clearToRow b).pop.withMode .inTableBody) else .done b

def closeCell (names : List String) (b : Builder) : Builder :=
  (b.close names).clearFormatting.withMode .inRow

def inCell (t : Token) (b : Builder) : Progress :=
  match t with
  | .opening tag =>
    if tableParts.contains tag.name then
      if b.hasInScope .table cells then .again (closeCell cells b) else .done b
    else inBody t b
  | .closing name =>
    if cells.contains name then
      .done (if b.hasInScope .table [name] then closeCell [name] b else b)
    else if ["table", "tbody", "tfoot", "thead", "tr"].contains name then
      if b.hasInScope .table [name] then .again (closeCell cells b) else .done b
    else if name = "body" ∨ name = "html" ∨ tableParts.contains name then .done b
    else inBody t b
  | _ => inBody t b

end Selenese.Html.Rules
