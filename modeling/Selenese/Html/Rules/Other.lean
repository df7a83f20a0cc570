import Selenese.Html.Rules.Table

/-!
# Selenese.Html.Rules.Other

The rules for selection lists, templates, frames, foreign content, and for what follows the body.
-/

namespace Selenese.Html.Rules

open Builder

def closeSelect (b : Builder) : Builder := (b.popUntil ["select"]).resetMode

def popIf (name : String) (b : Builder) : Builder := if b.currentIs name then b.pop else b

def inSelect (t : Token) (b : Builder) : Progress :=
  match t with
  | .char c => .done (if c = '\x00' then b else b.insertChar c)
  | .comment | .doctype _ => .done b
  | .opening t =>
    match t.name with
    | "option" => .done ((popIf "option" b).insert t)
    | "optgroup" => .done ((popIf "optgroup" (popIf "option" b)).insert t)
    | "hr" => .done ((popIf "optgroup" (popIf "option" b)).insertVoid t)
    | "select" => .done (if b.hasInScope .select ["select"] then closeSelect b else b)
    | "input" | "keygen" | "textarea" =>
      if b.hasInScope .select ["select"] then .again (closeSelect b) else .done b
    | "script" | "template" => .done (headTag t b)
    | _ => .done b
  | .closing name =>
    match name with
    | "optgroup" =>
      let below := (b.stack.drop 1).head?.any fun o => o.name.is "optgroup"
      .done (popIf "optgroup" (if b.currentIs "option" && below then b.pop else b))
    | "option" => .done (popIf "option" b)
    | "select" => .done (if b.hasInScope .select ["select"] then closeSelect b else b)
    | "template" => .done (endTemplate b)
    | _ => .done b
  | .finish => b.finishTemplates

/-- Parts of tables that end a selection list in a table. -/
def selectEnds : List String := ["caption", "table", "tbody", "tfoot", "thead", "tr", "td", "th"]

def inSelectInTable (t : Token) (b : Builder) : Progress :=
  match t with
  | .opening tag => if selectEnds.contains tag.name then .again (closeSelect b) else inSelect t b
  | .closing name =>
    if selectEnds.contains name then
      if b.hasInScope .table [name] then .again (closeSelect b) else .done b
    else inSelect t b
  | _ => inSelect t b

def inTemplate (t : Token) (b : Builder) : Progress :=
  match t with
  | .char _ | .comment | .doctype _ => inBody t b
  | .opening tag =>
    if headTags.contains tag.name then .done (headTag tag b)
    else
      match tag.name with
      | "caption" | "colgroup" | "tbody" | "tfoot" | "thead" => switch .inTable
      | "col" => switch .inColumns
      | "tr" => switch .inTableBody
      | "td" | "th" => switch .inRow
      | _ => switch .inBody
  | .closing name => .done (if name = "template" then endTemplate b else b)
  | .finish => b.finishTemplates
where
  switch (mode : Mode) : Progress := .again { b with mode := mode, templates := mode :: b.templates.drop 1 }

def afterBody (t : Token) (b : Builder) : Progress :=
  match t with
  | .char c => if isSpace c then inBody t b else .again (b.withMode .inBody)
  | .comment | .doctype _ | .finish => .done b
  | .opening tag => if tag.name = "html" then .done b else .again (b.withMode .inBody)
  | .closing name => if name = "html" then .done (b.withMode .afterAfterBody) else .again (b.withMode .inBody)

def afterAfterBody (t : Token) (b : Builder) : Progress :=
  match t with
  | .char c => if isSpace c then inBody t b else .again (b.withMode .inBody)
  | .comment | .doctype _ | .finish => .done b
  | .opening tag => if tag.name = "html" then .done b else .again (b.withMode .inBody)
  | .closing _ => .again (b.withMode .inBody)

def inFrames (t : Token) (b : Builder) : Progress :=
  match t with
  | .char c => .done (if isSpace c then b.insertChar c else b)
  | .opening t =>
    match t.name with
    | "frameset" => .done (b.insert t)
    | "frame" => .done (b.insertVoid t)
    | "noframes" => .done (headTag t b)
    | _ => .done b
  | .closing "frameset" =>
    if b.stack.length ≤ 1 then .done b
    else
      let b := b.pop
      .done (if b.currentIs "frameset" then b else b.withMode .afterFrames)
  | _ => .done b

def afterFrames (t : Token) (b : Builder) : Progress :=
  match t with
  | .char c => .done (if isSpace c then b.insertChar c else b)
  | .opening t => .done (if t.name = "noframes" then headTag t b else b)
  | .closing "html" => .done (b.withMode .afterAfterFrames)
  | _ => .done b

def afterAfterFrames (t : Token) (b : Builder) : Progress :=
  match t with
  | .char c => if isSpace c then inBody t b else .done b
  | .opening t => .done (if t.name = "noframes" then headTag t b else b)
  | _ => .done b

def inMode : Mode → Token → Builder → Progress
  | .initial => initial
  | .beforeHtml => beforeHtml
  | .beforeHead => beforeHead
  | .inHead => inHead
  | .afterHead => afterHead
  | .inBody => inBody
  | .inText => inText
  | .inTable => inTable
  | .inTableText => inTableText
  | .inCaption => inCaption
  | .inColumns => inColumns
  | .inTableBody => inTableBody
  | .inRow => inRow
  | .inCell => inCell
  | .inSelect => inSelect
  | .inSelectInTable => inSelectInTable
  | .inTemplate => inTemplate
  | .afterBody => afterBody
  | .inFrames => inFrames
  | .afterFrames => afterFrames
  | .afterAfterBody => afterAfterBody
  | .afterAfterFrames => afterAfterFrames

/-! ## Foreign content -/

/-- Start tags of HTML that end foreign content. -/
def breakers : List String := [
  "b", "big", "blockquote", "body", "br", "center", "code", "dd", "div", "dl", "dt", "em", "embed", "h1", "h2",
  "h3", "h4", "h5", "h6", "head", "hr", "i", "img", "li", "listing", "menu", "meta", "nobr", "ol", "p", "pre",
  "ruby", "s", "small", "span", "strong", "strike", "sub", "sup", "table", "tt", "u", "ul", "var"]

def breaksOut (t : Tag) : Bool :=
  breakers.contains t.name ||
    (t.name == "font" && ["color", "face", "size"].any fun a => (t.attribute? a).isSome)

/-- Whether a token is read by the rules for foreign content. -/
def isForeign (t : Token) (b : Builder) : Bool :=
  let n := b.current
  match t with
  | .finish => false
  | .char _ => n.vocabulary != .html && !n.holdsText && !n.holdsHtml
  | .opening tag =>
    n.vocabulary != .html && !n.holdsHtml
      && !(n.holdsText && tag.name != "mglyph" && tag.name != "malignmark")
      && !(n == ⟨.math, "annotation-xml"⟩ && tag.name == "svg")
  | _ => n.vocabulary != .html

/-- Leaves foreign content. -/
def leaveForeign (t : Token) (b : Builder) : Progress :=
  let isHome (o : Open) : Bool := o.name.vocabulary == .html || o.name.holdsText || o.name.holdsHtml
  let b := { b with stack := b.stack.dropWhile fun o => !isHome o }
  inMode b.mode t b

/-- Looks through the open elements for one that an end tag in foreign content closes. -/
def closeForeign (name : String) (b : Builder) : (innermost : Bool) → List Open → Progress
  | _, [] => .done b
  | _, [_] => .done b
  | innermost, o :: r =>
    if !innermost && o.name.vocabulary == .html then inMode b.mode (.closing name) b
    else if o.name.name = name then .done { b with stack := r }
    else closeForeign name b false r

def foreign (t : Token) (b : Builder) : Progress :=
  match t with
  | .char c =>
    let b := b.insertChar (cleanChar c)
    .done (if isSpace c || c == '\x00' then b else b.noFrames)
  | .opening tag =>
    if breaksOut tag then leaveForeign t b else .done (b.insertForeign b.current.vocabulary tag)
  | .closing name =>
    if name = "br" ∨ name = "p" then leaveForeign t b else closeForeign name b true b.stack
  | _ => .done b

end Selenese.Html.Rules
