import Selenese.Html.Builder

/-!
# Selenese.Html.Rules.Head

The rules for what stands before the body of a page, and for the text of elements that hold nothing else.
-/

namespace Selenese.Html.Rules

open Builder

/-- Start tags that the head takes wherever they stand. -/
def headTags : List String := [
  "base", "basefont", "bgsound", "link", "meta", "noframes", "script", "style", "template", "title"]

def initial (t : Token) (b : Builder) : Progress :=
  match t with
  | .char c => if isSpace c then .done b else other
  | .comment => .done b
  | .doctype legacy => .done { b with legacy := legacy, mode := .beforeHtml }
  | _ => other
where
  other : Progress := .again { b with legacy := true, mode := .beforeHtml }

/-- End tags that open the elements that are still missing. -/
def opensMissing (name : String) : Bool := ["head", "body", "html", "br"].contains name

/-- Creates the element around the whole page. -/
def openPage (b : Builder) (attributes : List (String × String)) : Builder :=
  { b with
    stack := [⟨b.document.next, .html "html"⟩]
    document := b.document.create (.html "html") attributes
    mode := .beforeHead }

def beforeHtml (t : Token) (b : Builder) : Progress :=
  match t with
  | .char c => if isSpace c then .done b else other
  | .comment | .doctype _ => .done b
  | .opening t => if t.name = "html" then .done (openPage b t.attributes) else other
  | .closing name => if opensMissing name then other else .done b
  | .finish => other
where
  other : Progress := .again (openPage b [])

def openHead (b : Builder) (t : Tag) : Builder :=
  { b.insert t with head := some b.document.next, mode := .inHead }

def beforeHead (t : Token) (b : Builder) : Progress :=
  match t with
  | .char c => if isSpace c then .done b else other
  | .comment | .doctype _ => .done b
  | .opening t =>
    if t.name = "html" then .done b
    else if t.name = "head" then .done (openHead b t)
    else other
  | .closing name => if opensMissing name then other else .done b
  | .finish => other
where
  other : Progress := .again (openHead b ⟨"head", [], false⟩)

/-- The start tags that the head takes. -/
def headTag (t : Tag) (b : Builder) : Builder :=
  match t.name with
  | "title" => b.insertText t (.escapable "title")
  | "noframes" | "noscript" | "style" => b.insertText t (.raw t.name)
  | "script" => b.insertText t (.script .plain)
  | "template" =>
    let b := (b.insert t).addBarrier.noFrames
    { b with mode := .inTemplate, templates := .inTemplate :: b.templates }
  | _ => b.insertVoid t

def endTemplate (b : Builder) : Builder := if b.hasOpen "template" then b.closeTemplate else b

def inHead (t : Token) (b : Builder) : Progress :=
  match t with
  | .char c => if isSpace c then .done (b.insertChar c) else other
  | .comment | .doctype _ => .done b
  | .opening t =>
    if t.name = "html" ∨ t.name = "head" then .done b
    else if headTags.contains t.name ∨ t.name = "noscript" then .done (headTag t b)
    else other
  | .closing name =>
    if name = "head" then .done (b.pop.withMode .afterHead)
    else if name = "template" then .done (endTemplate b)
    else if opensMissing name then other
    else .done b
  | .finish => other
where
  other : Progress := .again (b.pop.withMode .afterHead)

/-- A tag of the head that follows it is put into it. -/
def lateHeadTag (t : Tag) (b : Builder) : Builder :=
  match b.head with
  | none => headTag t b
  | some id =>
    let b := headTag t { b with stack := ⟨id, .html "head"⟩ :: b.stack }
    { b with stack := Open.remove id b.stack }

def afterHead (t : Token) (b : Builder) : Progress :=
  match t with
  | .char c => if isSpace c then .done (b.insertChar c) else other
  | .comment | .doctype _ => .done b
  | .opening t =>
    if t.name = "html" ∨ t.name = "head" then .done b
    else if t.name = "body" then .done ((b.insert t).noFrames.withMode .inBody)
    else if t.name = "frameset" then .done ((b.insert t).withMode .inFrames)
    else if headTags.contains t.name then .done (lateHeadTag t b)
    else other
  | .closing name =>
    if name = "template" then .done (endTemplate b)
    else if opensMissing name then other
    else .done b
  | .finish => other
where
  other : Progress := .again ((b.insertPlain "body").withMode .inBody)

/-- The content of an element that holds text alone. -/
def inText (t : Token) (b : Builder) : Progress :=
  match t with
  | .char c => .done (b.insertChar c)
  | .closing _ => .done (b.pop.withMode b.resumed)
  | .finish => .again (b.pop.withMode b.resumed)
  | _ => .done b

end Selenese.Html.Rules
