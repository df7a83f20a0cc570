import Selenese.Html.Node
import Selenese.Html.Rules.Other

/-!
# Selenese.Html.Page

Reading a page: tokens are read one after the other, each in the state that the one before it has left.

* `Page.parse` answers the tree of a page. Every text is a page.
-/

namespace Selenese.Html

namespace Builder

/-- Reads a token by the rules that go with the innermost open element and the mode. -/
def dispatch (t : Token) (b : Builder) : Progress :=
  if Rules.isForeign t b then Rules.foreign t b else Rules.inMode b.mode t b

/-- Reads a token until it is used up. -/
def settle (t : Token) : (fuel : Nat) → Builder → Builder
  | 0, b => b
  | fuel + 1, b =>
    match dispatch t b with
    | .done b => b
    | .again b => settle t fuel b

/-- Every open element and every template can send a token back once, and no page needs more than a few modes
besides. -/
def patience (b : Builder) : Nat := 4 * b.stack.length + 2 * b.templates.length + 32

def accept (b : Builder) (t : Token) : Builder :=
  let skipped := { b with skipLineFeed := false }
  if b.skipLineFeed && t == .char '\n' then skipped else settle t skipped.patience skipped

/-- Whether the innermost open element is foreign. -/
def inForeign (b : Builder) : Bool := b.current.vocabulary != .html

def read : (fuel : Nat) → List Char → Builder → Builder
  | 0, _, b => b
  | fuel + 1, l, b =>
    let (tokens, lexing, rest) := nextTokens b.inForeign l b.lexing
    let b := tokens.foldl accept { b with lexing := lexing }
    if l.isEmpty then b else read fuel rest b

end Builder

/-- The tree of a page. -/
def Page.parse (source : String) : Node :=
  let l := normalize source
  let d := (Builder.start.read (l.length + 1) l).document
  d.tree (d.elements.size + 1) 0

end Selenese.Html
