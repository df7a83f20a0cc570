import Selenese.CharRef.Capitals
import Selenese.CharRef.SmallAToL
import Selenese.CharRef.SmallMToZ

/-!
# Selenese.CharRef.Named

Lookup of named character references.

* `named? name` is what `&name;` stands for.
* `bareNames` are the names that a page may also write without the semicolon.
* `longest? text` is the reference with the longest name that begins `text`.
-/

namespace Selenese.CharRef

/-- The references whose names begin with a letter. -/
def namesUnder : Char → List (String × List Nat)
  | 'A' => capitalA
  | 'B' => capitalB
  | 'C' => capitalC
  | 'D' => capitalD
  | 'E' => capitalE
  | 'F' => capitalF
  | 'G' => capitalG
  | 'H' => capitalH
  | 'I' => capitalI
  | 'J' => capitalJ
  | 'K' => capitalK
  | 'L' => capitalL
  | 'M' => capitalM
  | 'N' => capitalN
  | 'O' => capitalO
  | 'P' => capitalP
  | 'Q' => capitalQ
  | 'R' => capitalR
  | 'S' => capitalS
  | 'T' => capitalT
  | 'U' => capitalU
  | 'V' => capitalV
  | 'W' => capitalW
  | 'X' => capitalX
  | 'Y' => capitalY
  | 'Z' => capitalZ
  | 'a' => smallA
  | 'b' => smallB
  | 'c' => smallC
  | 'd' => smallD
  | 'e' => smallE
  | 'f' => smallF
  | 'g' => smallG
  | 'h' => smallH
  | 'i' => smallI
  | 'j' => smallJ
  | 'k' => smallK
  | 'l' => smallL
  | 'm' => smallM
  | 'n' => smallN
  | 'o' => smallO
  | 'p' => smallP
  | 'q' => smallQ
  | 'r' => smallR
  | 's' => smallS
  | 't' => smallT
  | 'u' => smallU
  | 'v' => smallV
  | 'w' => smallW
  | 'x' => smallX
  | 'y' => smallY
  | 'z' => smallZ
  | _ => []

def named? (name : List Char) : Option (List Char) :=
  match name with
  | [] => none
  | c :: _ =>
    ((namesUnder c).find? fun e => e.1.toList == name).map fun e => e.2.map Char.ofNat

/-- Names that stand for a character without their semicolon too. -/
def bareNames : List String := [
  "AElig", "AMP", "Aacute", "Acirc", "Agrave", "Aring", "Atilde", "Auml", "COPY", "Ccedil",
  "ETH", "Eacute", "Ecirc", "Egrave", "Euml", "GT", "Iacute", "Icirc", "Igrave", "Iuml", "LT",
  "Ntilde", "Oacute", "Ocirc", "Ograve", "Oslash", "Otilde", "Ouml", "QUOT", "REG", "THORN",
  "Uacute", "Ucirc", "Ugrave", "Uuml", "Yacute", "aacute", "acirc", "acute", "aelig", "agrave",
  "amp", "aring", "atilde", "auml", "brvbar", "ccedil", "cedil", "cent", "copy", "curren", "deg",
  "divide", "eacute", "ecirc", "egrave", "eth", "euml", "frac12", "frac14", "frac34", "gt",
  "iacute", "icirc", "iexcl", "igrave", "iquest", "iuml", "laquo", "lt", "macr", "micro",
  "middot", "nbsp", "not", "ntilde", "oacute", "ocirc", "ograve", "ordf", "ordm", "oslash",
  "otilde", "ouml", "para", "plusmn", "pound", "quot", "raquo", "reg", "sect", "shy", "sup1",
  "sup2", "sup3", "szlig", "thorn", "times", "uacute", "ucirc", "ugrave", "uml", "uuml",
  "yacute", "yen", "yuml"]

/-- A named reference found at the start of a text: its characters, whether the semicolon was written, and
what follows it. -/
structure Found where
  chars : List Char
  closed : Bool
  rest : List Char

/-- The reference written as `name;` at the start of a text. -/
def closedAt (text : List Char) (e : String × List Nat) : Option Found :=
  match e.1.toList.isPrefixOf? text with
  | some (';' :: rest) => some ⟨e.2.map Char.ofNat, true, rest⟩
  | _ => none

/-- The longest name at the start of a text that needs no semicolon. -/
def longestBare? (text : List Char) : Option Found :=
  let names := bareNames.filter fun n => n.toList.isPrefixOf text
  let best := names.foldl (fun b n => if b.length < n.length then n else b) ""
  match named? best.toList, best.toList.isPrefixOf? text with
  | some chars, some rest => some ⟨chars, false, rest⟩
  | _, _ => none

/-- The reference with the longest name at the start of a text. A name with its semicolon is longer than
every name that is written without one, since no name runs on past its semicolon. -/
def longest? (text : List Char) : Option Found :=
  match text with
  | [] => none
  | c :: _ =>
    match (namesUnder c).findSome? (closedAt text) with
    | some f => some f
    | none => longestBare? text

end Selenese.CharRef
