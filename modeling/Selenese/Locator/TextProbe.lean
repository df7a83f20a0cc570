import Selenese.Locator

/-!
# Selenese.Locator.TextProbe

Searching a page for a text by an XPath expression.

* `quoteLiteral` writes a text as an XPath string expression. XPath has no escapes, so a text with both
  kinds of quotes is cut at its single quotes and put together again by `concat`.
* `readLiteral` reads such an expression back.
* `Locator.containingText` is the probe for a text, `Locator.probedText?` the text of a probe.
-/

namespace Selenese

namespace Locator

open Text

def between (q : Char) (l : List Char) : List Char := q :: l ++ [q]

/-- The arguments of `concat`: the pieces in single quotes, with a quoted quote between two of them. -/
def concatArguments : List (List Char) → List Char
  | [] => []
  | [p] => between '\'' p
  | p :: ps => between '\'' p ++ ", \"'\", ".toList ++ concatArguments ps

def quoteLiteral (text : List Char) : List Char :=
  if '\'' ∉ text then between '\'' text
  else if '"' ∉ text then between '"' text
  else "concat(".toList ++ concatArguments (splitOn '\'' text) ++ [')']

/-- Reads quoted pieces, `quote` being the one that is open; commas and blanks may stand between them. -/
def readPieces (quote : Option Char) : List Char → Option (List Char)
  | [] => if quote.isNone then some [] else none
  | c :: r =>
    match quote with
    | some q => if c = q then readPieces none r else (readPieces (some q) r).map (c :: ·)
    | none =>
      if c = '\'' ∨ c = '"' then readPieces (some c) r
      else if c = ',' ∨ c = ' ' then readPieces none r
      else none

def readLiteral (raw : String) : Option String :=
  let body? :=
    match afterPrefix? "concat(" raw with
    | some rest => beforeSuffix? ")" rest
    | none => some raw
  body?.bind fun body => (readPieces none body.toList).map String.ofList

def probeHead : String := "//*[contains(text(),"

def probeTail : String := ")]"

/-- The locator of any element whose text contains `text`. -/
def containingText (text : String) : Locator :=
  xpath (probeHead ++ String.ofList (quoteLiteral text.toList) ++ probeTail)

/-- The text that a locator probes for, if it is a text probe. -/
def probedText? : Locator → Option String
  | xpath s => ((afterPrefix? probeHead s).bind (beforeSuffix? probeTail)).bind readLiteral
  | _ => none

end Locator

end Selenese
