import Selenese.Html.Rules.Head

/-!
# Selenese.Html.Rules.Body

The rules for the body of a page.
-/

namespace Selenese.Html.Rules

open Builder

/-- Elements that end a paragraph. -/
def blocks : List String := [
  "address", "article", "aside", "blockquote", "center", "details", "dialog", "dir", "div", "dl", "fieldset",
  "figcaption", "figure", "footer", "header", "hgroup", "main", "menu", "nav", "ol", "p", "search", "section",
  "summary", "ul"]

/-- Elements other than paragraphs whose end tags close what is open inside them. -/
def closedBlocks : List String := [
  "address", "article", "aside", "blockquote", "button", "center", "details", "dialog", "dir", "div", "dl",
  "fieldset", "figcaption", "figure", "footer", "header", "hgroup", "listing", "main", "menu", "nav", "ol", "pre",
  "search", "section", "summary", "ul"]

def formattingTags : List String := [
  "b", "big", "code", "em", "font", "i", "s", "small", "strike", "strong", "tt", "u"]

/-- Elements that formatting does not cross. -/
def enclosed : List String := ["applet", "marquee", "object"]

/-- Start tags that mean nothing outside their place. -/
def misplaced : List String := [
  "caption", "col", "colgroup", "frame", "head", "tbody", "td", "tfoot", "th", "thead", "tr"]

def isHidden (t : Tag) : Bool := (t.attribute? "type").any (Text.sameIgnoringCase "hidden")

/-- Closes the item that a new one follows, unless a special element is open inside it. -/
def closeItem (names : List String) (b : Builder) : Builder :=
  let others := special.filter fun n => !(["address", "div", "p"].contains n)
  match b.stack.find? fun o => o.name.isAny names || o.name.isAny others with
  | some o => if o.name.isAny names then (b.closeImplied o.name.name).popUntil [o.name.name] else b
  | none => b

/-- The body of the page, if it is open. -/
def body? (b : Builder) : Option Open := (b.stack.reverse[1]?).filter fun o => o.name.is "body"

/-- Replaces the body by a set of frames, if the page has nothing to show yet. -/
def openFrames (t : Tag) (b : Builder) : Builder :=
  match body? b with
  | some body =>
    if b.framesAllowed then
      let page := b.stack.drop (b.stack.length - 1)
      ({ b with document := b.document.detach body.id, stack := page }.insert t).withMode .inFrames
    else b
  | none => b

def openForm (t : Tag) (b : Builder) : Builder :=
  let templated := b.hasOpen "template"
  if b.form.isSome && !templated then b
  else
    let id := b.document.next
    let b := b.closeParagraph.insert t
    if templated then b else { b with form := some id }

def closeForm (b : Builder) : Builder :=
  if b.hasOpen "template" then
    if b.hasInScope .general ["form"] then b.close ["form"] else b
  else
    match b.form with
    | none => b
    | some id =>
      let b := { b with form := none }
      if Open.inScope .general (fun o => o.id == id) b.stack then
        let b := b.closeImplied ""
        { b with stack := Open.remove id b.stack }
      else b

/-- A link ends the link that is still open. -/
def openLink (t : Tag) (b : Builder) : Builder :=
  let b :=
    match b.recent.find? (Mark.isNamed "a") with
    | some (.element o _) =>
      let b := (b.adoptionAgency "a").forget o.id
      { b with stack := Open.remove o.id b.stack }
    | _ => b
  b.reconstruct.insertFormatting t

def openSelect (t : Tag) (b : Builder) : Builder :=
  let inTable := [Mode.inTable, .inCaption, .inTableBody, .inRow, .inCell].contains b.mode
  (b.reconstruct.insert t).noFrames.withMode (if inTable then .inSelectInTable else .inSelect)

/-- The start tags that neither the head nor a table takes. -/
def bodyTag (t : Tag) (b : Builder) : Builder :=
  if blocks.contains t.name then b.closeParagraph.insert t
  else if headings.contains t.name then
    let b := b.closeParagraph
    (if b.current.isAny headings then b.pop else b).insert t
  else if formattingTags.contains t.name then b.reconstruct.insertFormatting t
  else if enclosed.contains t.name then (b.reconstruct.insert t).addBarrier.noFrames
  else if misplaced.contains t.name then b
  else
    match t.name with
    | "html" => b
    | "body" => if (body? b).isSome && !b.hasOpen "template" then b.noFrames else b
    | "frameset" => openFrames t b
    | "pre" | "listing" => { (b.closeParagraph.insert t).noFrames with skipLineFeed := true }
    | "form" => openForm t b
    | "li" => ((closeItem ["li"] b.noFrames).closeParagraph).insert t
    | "dd" | "dt" => ((closeItem ["dd", "dt"] b.noFrames).closeParagraph).insert t
    | "plaintext" => { b.closeParagraph.insert t with lexing := .plaintext }
    | "button" =>
      let b := if b.hasInScope .general ["button"] then b.close ["button"] else b
      (b.reconstruct.insert t).noFrames
    | "a" => openLink t b
    | "nobr" =>
      let b := b.reconstruct
      let b := if b.hasInScope .general ["nobr"] then (b.adoptionAgency "nobr").reconstruct else b
      b.insertFormatting t
    | "table" => ((if b.legacy then b else b.closeParagraph).insert t).noFrames.withMode .inTable
    | "area" | "br" | "embed" | "img" | "keygen" | "wbr" => (b.reconstruct.insertVoid t).noFrames
    | "image" => (b.reconstruct.insertVoid { t with name := "img" }).noFrames
    | "input" =>
      let b := b.reconstruct.insertVoid t
      if isHidden t then b else b.noFrames
    | "param" | "source" | "track" => b.insertVoid t
    | "hr" => (b.closeParagraph.insertVoid t).noFrames
    | "textarea" => { b.noFrames.insertText t (.escapable "textarea") with skipLineFeed := true }
    | "xmp" => b.closeParagraph.reconstruct.noFrames.insertText t (.raw "xmp")
    | "iframe" => b.noFrames.insertText t (.raw "iframe")
    | "noembed" | "noscript" => b.insertText t (.raw t.name)
    | "select" => openSelect t b
    | "optgroup" | "option" => ((if b.currentIs "option" then b.pop else b).reconstruct).insert t
    | "rb" | "rtc" => (if b.hasInScope .general ["ruby"] then b.closeImplied "" else b).insert t
    | "rp" | "rt" => (if b.hasInScope .general ["ruby"] then b.closeImplied "rtc" else b).insert t
    | "math" => b.reconstruct.insertForeign .math t
    | "svg" => b.reconstruct.insertForeign .svg t
    | _ => b.reconstruct.insert t

/-- End tags other than those of the page and the body. -/
def endTag (name : String) (b : Builder) : Builder :=
  if closedBlocks.contains name then
    if b.hasInScope .general [name] then b.close [name] else b
  else if headings.contains name then
    if b.hasInScope .general headings then b.close headings else b
  else if formattingTags.contains name then b.adoptionAgency name
  else if enclosed.contains name then
    if b.hasInScope .general [name] then (b.close [name]).clearFormatting else b
  else
    match name with
    | "template" => endTemplate b
    | "form" => closeForm b
    | "p" =>
      let b := if b.hasInScope .button ["p"] then b else b.insertPlain "p"
      b.closeParagraph
    | "li" =>
      if b.hasInScope .listItem ["li"] then (b.closeImplied "li").popUntil ["li"] else b
    | "dd" | "dt" =>
      if b.hasInScope .general [name] then (b.closeImplied name).popUntil [name] else b
    | "a" | "nobr" => b.adoptionAgency name
    | "br" => (b.reconstruct.insertVoid ⟨"br", [], false⟩).noFrames
    | _ => b.closeOther name

def bodyChar (c : Char) (b : Builder) : Builder :=
  if c = '\x00' then b
  else
    let b := b.reconstruct.insertChar c
    if isSpace c then b else b.noFrames

def inBody (t : Token) (b : Builder) : Progress :=
  match t with
  | .char c => .done (bodyChar c b)
  | .comment | .doctype _ => .done b
  | .opening t => .done (if headTags.contains t.name then headTag t b else bodyTag t b)
  | .closing "body" => .done (if b.hasInScope .general ["body"] then b.withMode .afterBody else b)
  | .closing "html" => if b.hasInScope .general ["body"] then .again (b.withMode .afterBody) else .done b
  | .closing name => .done (endTag name b)
  | .finish => b.finishTemplates

end Selenese.Html.Rules
