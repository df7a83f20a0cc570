import Selenese.Html.Open
import Selenese.Html.Token

/-!
# Selenese.Html.Builder

The state in which a page is read, and the steps that the rules of reading are made of.

* `Builder` holds the document so far, the open elements, and the formatting elements that are opened again where
  the page closes them too early.
* `insert` opens an element where new content goes. In a table, misplaced content goes before the table
  while `fostering` is on.
* `reconstruct` opens formatting elements again; `adoptionAgency` closes one that overlaps with other elements.
-/

namespace Selenese.Html

/-- What part of a page is read. -/
inductive Mode where
  | initial | beforeHtml | beforeHead | inHead | afterHead | inBody | inText | inTable | inTableText | inCaption
  | inColumns | inTableBody | inRow | inCell | inSelect | inSelectInTable | inTemplate | afterBody
  | inFrames | afterFrames | afterAfterBody | afterAfterFrames
deriving DecidableEq, Repr

/-- An entry of the list of formatting elements. -/
inductive Mark where
  /-- Elements before the barrier are left alone. -/
  | barrier
  | element (o : Open) (attributes : List (String × String))
deriving DecidableEq, Repr

structure Builder where
  document : Document
  mode : Mode
  /-- The mode that is taken up again after text. -/
  resumed : Mode
  stack : List Open
  /-- The latest first. -/
  formatting : List Mark
  /-- The modes of the open templates. -/
  templates : List Mode
  head : Option Nat
  form : Option Nat
  /-- Whether the page may still turn out to be a set of frames. -/
  framesAllowed : Bool
  /-- Whether a line feed that comes next is left out. -/
  skipLineFeed : Bool
  fostering : Bool
  /-- Text read in a table, the latest first. -/
  pending : List Char
  legacy : Bool
  lexing : Lexing

/-- What a rule did: it used the token up, or the token is to be read again in the new state. -/
inductive Progress where
  | done (b : Builder)
  | again (b : Builder)

namespace Mark

def isNamed (name : String) : Mark → Bool
  | barrier => false
  | element o _ => o.name.is name

def isOf (id : Nat) : Mark → Bool
  | barrier => false
  | element o _ => o.id == id

def isBarrier : Mark → Bool
  | barrier => true
  | element .. => false

end Mark

namespace Builder

def start : Builder where
  document := .empty
  mode := .initial
  resumed := .initial
  stack := []
  formatting := []
  templates := []
  head := none
  form := none
  framesAllowed := true
  skipLineFeed := false
  fostering := false
  pending := []
  legacy := false
  lexing := .data

/-- The name of the innermost open element. -/
def current (b : Builder) : Name := (b.stack.head?.map Open.name).getD (.html "html")

def currentIs (b : Builder) (name : String) : Bool := b.current.is name

def hasInScope (b : Builder) (limit : Limit) (names : List String) : Bool :=
  Open.hasInScope limit names b.stack

def hasOpen (b : Builder) (name : String) : Bool := Open.has name b.stack

def withMode (b : Builder) (mode : Mode) : Builder := { b with mode := mode }

def noFrames (b : Builder) : Builder := { b with framesAllowed := false }

def pop (b : Builder) : Builder := { b with stack := b.stack.drop 1 }

def popUntil (b : Builder) (names : List String) : Builder := { b with stack := Open.popUntil names b.stack }

def clearTo (b : Builder) (names : List String) : Builder := { b with stack := Open.clearTo names b.stack }

def closeImplied (b : Builder) (spared : String) : Builder :=
  { b with stack := Open.closeImplied impliedEnds spared b.stack }

/-- Closes an element of some names, and before it those whose ends may be left out. -/
def close (b : Builder) (names : List String) : Builder := (b.closeImplied "").popUntil names

def closeParagraph (b : Builder) : Builder :=
  if b.hasInScope .button ["p"] then (b.closeImplied "p").popUntil ["p"] else b

/-! ## Content -/

/-- Places a child before the table that is open, or in the template that is open in it. -/
def foster (c : Child) (b : Builder) : Builder :=
  let d := b.document
  let rec go : List Open → Document
    | [] => d.append 0 c
    | o :: r =>
      if o.name.is "template" then d.append o.id c
      else if o.name.is "table" then
        match d.parent? o.id, r with
        | some p, _ => d.insertBefore p o.id c
        | none, below :: _ => d.append below.id c
        | none, [] => d.append 0 c
      else go r
  { b with document := go b.stack }

/-- Places a child as content of an open element. -/
def placeIn (target : Open) (c : Child) (b : Builder) : Builder :=
  if b.fostering && target.name.isAny ["table", "tbody", "tfoot", "thead", "tr"] then b.foster c
  else { b with document := b.document.append target.id c }

/-- Places a child where new content goes. -/
def place (c : Child) (b : Builder) : Builder :=
  match b.stack with
  | [] => b
  | o :: _ => b.placeIn o c

def insertChar (b : Builder) (c : Char) : Builder := b.place (.text [c])

/-- Creates an element, places it and opens it. -/
def insertNamed (b : Builder) (name : Name) (attributes : List (String × String)) : Builder :=
  let id := b.document.next
  let b := { b with document := b.document.create name attributes }.place (.element id)
  { b with stack := ⟨id, name⟩ :: b.stack }

def insert (b : Builder) (t : Tag) : Builder := b.insertNamed (.html t.name) t.attributes

/-- An element of a name, without attributes. -/
def insertPlain (b : Builder) (name : String) : Builder := b.insertNamed (.html name) []

/-- An element without content. -/
def insertVoid (b : Builder) (t : Tag) : Builder := (b.insert t).pop

/-- An element whose content is text. -/
def insertText (b : Builder) (t : Tag) (lexing : Lexing) : Builder :=
  { b.insert t with lexing := lexing, resumed := b.mode, mode := .inText }

def insertForeign (b : Builder) (vocabulary : Vocabulary) (t : Tag) : Builder :=
  let b := b.insertNamed ⟨vocabulary, t.name⟩ t.attributes
  if t.selfClosing then b.pop else b

/-! ## Formatting -/

def addBarrier (b : Builder) : Builder := { b with formatting := .barrier :: b.formatting }

/-- Forgets the formatting elements up to the last barrier. -/
def clearFormatting (b : Builder) : Builder :=
  { b with formatting := (b.formatting.dropWhile fun m => !m.isBarrier).drop 1 }

def forget (b : Builder) (id : Nat) : Builder :=
  { b with formatting := b.formatting.eraseP (Mark.isOf id) }

def isClosed (b : Builder) : Mark → Bool
  | .barrier => false
  | .element o _ => !b.stack.any fun p => p.id == o.id

/-- Opens formatting elements again, the earliest first. -/
def reopen : List Mark → Builder → Builder
  | [], b => b
  | .barrier :: r, b => reopen r b
  | .element o attributes :: r, b =>
    let id := b.document.next
    let b := b.insertNamed o.name attributes
    reopen r { b with formatting := .element ⟨id, o.name⟩ attributes :: b.formatting }

def reconstruct (b : Builder) : Builder :=
  let (closed, others) := b.formatting.span b.isClosed
  reopen closed.reverse { b with formatting := others }

/-- The formatting elements since the last barrier. -/
def recent (b : Builder) : List Mark := b.formatting.takeWhile fun m => !m.isBarrier

def sameAttributes (a b : List (String × String)) : Bool := a.length == b.length && a.all b.contains

/-- Opens a formatting element. Of equal ones three are remembered, the earliest is forgotten. -/
def insertFormatting (b : Builder) (t : Tag) : Builder :=
  let equal := b.recent.filter fun
    | .barrier => false
    | .element o attributes => o.name.is t.name && sameAttributes attributes t.attributes
  let b :=
    match equal.getLast? with
    | some (.element o _) => if 3 ≤ equal.length then b.forget o.id else b
    | _ => b
  let id := b.document.next
  let b := b.insert t
  { b with formatting := .element ⟨id, .html t.name⟩ t.attributes :: b.formatting }

/-! ## End tags -/

/-- An end tag that no other rule knows: it closes the innermost element of its name, unless a special element
is open inside it. -/
def closeOther (b : Builder) (name : String) : Builder :=
  match b.stack.find? fun o => o.name.is name || o.name.isAny special with
  | some o =>
    if o.name.is name then { b with stack := (b.stack.dropWhile fun p => p.id ≠ o.id).drop 1 }
    else b
  | none => b

/-- The elements between a formatting element and the block in it, innermost first, with those that are
formatting elements opened anew; `last` is what goes into the next of them. -/
structure Bridge where
  builder : Builder
  opened : List Open
  last : Nat
  /-- The first formatting element opened anew. -/
  first : Option Nat

def bridge : (count : Nat) → List Open → Bridge → Bridge
  | _, [], s => s
  | count, o :: r, s =>
    let b := s.builder
    if 3 ≤ count then bridge (count + 1) r { s with builder := b.forget o.id }
    else
      match b.formatting.find? (Mark.isOf o.id) with
      | some (.element _ attributes) =>
        let id := b.document.next
        let d := ((b.document.create o.name attributes).detach s.last).append id (.element s.last)
        let formatting := b.formatting.map fun m =>
          if m.isOf o.id then .element ⟨id, o.name⟩ attributes else m
        bridge (count + 1) r
          ⟨{ b with document := d, formatting := formatting }, s.opened ++ [⟨id, o.name⟩], id, s.first <|> some id⟩
      | _ => bridge (count + 1) r s

/-- Puts a mark after another one, that is before it in the list. -/
def markAfter (id : Nat) (new : Mark) : List Mark → List Mark
  | [] => [new]
  | m :: r => if m.isOf id then new :: m :: r else m :: markAfter id new r

/-- Moves the content of a block that a formatting element overlaps with into a new formatting element in the
block. `inner` is open in the block, `middle` between the two, `outer` around the formatting element. -/
def relocate (o : Open) (attributes : List (String × String)) (inner : List Open) (block : Open)
    (middle outer : List Open) (b : Builder) : Builder :=
  let s := bridge 0 middle ⟨b, [], block.id, none⟩
  let b := { s.builder with document := s.builder.document.detach s.last }
  let b :=
    match outer with
    | ancestor :: _ => b.placeIn ancestor (.element s.last)
    | [] => b
  let id := b.document.next
  let d := ((b.document.create o.name attributes).moveChildren block.id id).append block.id (.element id)
  let new : Open := ⟨id, o.name⟩
  let formatting :=
    match s.first with
    | some first => (markAfter first (.element new attributes) b.formatting).eraseP (Mark.isOf o.id)
    | none => b.formatting.map fun m => if m.isOf o.id then .element new attributes else m
  { b with document := d, formatting := formatting, stack := inner ++ new :: block :: s.opened ++ outer }

/-- One round for the formatting elements of a name. -/
def agencyRound (name : String) (b : Builder) : Progress :=
  match b.recent.find? (Mark.isNamed name) with
  | some (.element o attributes) =>
    if !b.stack.any fun p => p.id == o.id then .done (b.forget o.id)
    else if !Open.inScope .general (fun p => p.id == o.id) b.stack then .done b
    else
      let (inside, rest) := b.stack.span fun p => p.id ≠ o.id
      let outer := rest.drop 1
      let (middle, block) := inside.reverse.span fun p => !p.name.isAny special
      match block with
      | [] => .done ({ b with stack := outer }.forget o.id)
      | block :: inner => .again (b.relocate o attributes inner.reverse block middle.reverse outer)
  | _ => .done (b.closeOther name)

def agencyRounds (name : String) : (rounds : Nat) → Builder → Builder
  | 0, b => b
  | rounds + 1, b =>
    match b.agencyRound name with
    | .done b => b
    | .again b => agencyRounds name rounds b

/-- Closes a formatting element, also one that overlaps with other elements. -/
def adoptionAgency (b : Builder) (name : String) : Builder :=
  match b.stack with
  | [] => b
  | o :: r =>
    if o.name.is name && !b.formatting.any (Mark.isOf o.id) then { b with stack := r }
    else agencyRounds name 8 b

/-! ## Modes -/

/-- The mode that goes with a list of open elements. -/
def modeOf (b : Builder) : List Open → Mode
  | [] => .inBody
  | o :: r =>
    let next := modeOf b r
    if o.name.vocabulary ≠ .html then next
    else
      match o.name.name with
      | "select" => select r
      | "td" | "th" => if r.isEmpty then .inBody else .inCell
      | "tr" => .inRow
      | "tbody" | "thead" | "tfoot" => .inTableBody
      | "caption" => .inCaption
      | "colgroup" => .inColumns
      | "table" => .inTable
      | "template" => b.templates.headD .inBody
      | "head" => if r.isEmpty then .inBody else .inHead
      | "body" => .inBody
      | "frameset" => .inFrames
      | "html" => if b.head.isNone then .beforeHead else .afterHead
      | _ => next
where
  select : List Open → Mode
    | [] => .inSelect
    | o :: r =>
      if o.name.is "template" then .inSelect else if o.name.is "table" then .inSelectInTable else select r

def resetMode (b : Builder) : Builder := b.withMode (b.modeOf b.stack)

/-- Closes the innermost template. -/
def closeTemplate (b : Builder) : Builder :=
  let b := (b.popUntil ["template"]).clearFormatting
  { b with templates := b.templates.drop 1 }.resetMode

/-- At the end of the page the open templates are closed one after the other. -/
def finishTemplates (b : Builder) : Progress :=
  if b.hasOpen "template" then .again b.closeTemplate else .done b

end Builder

end Selenese.Html
