import Selenese.Text.Span
import Selenese.Yaml.Cursor

/-!
# Selenese.Yaml.Scalar

The texts in a YAML document: plain, between quotes, or in a block of lines.

* A single line break in a plain or quoted text is a blank; of several, all but the first stay.
* A block keeps its line breaks (`|`) or folds them (`>`), and what follows its last line is kept or cut as its
  header says.
-/

namespace Selenese.Yaml

/-! ## White space between words -/

/-- White space that was passed over: blanks of a line, or line breaks. -/
structure Gap where
  blanks : List Char
  /-- Whether there was a line break. -/
  broken : Bool
  first : List Char
  others : List Char

def Gap.none : Gap := ⟨[], false, [], []⟩

/-- What a gap means in a text. -/
def Gap.text (g : Gap) : List Char :=
  if !g.broken then g.blanks
  else if g.first = ['\n'] then (if g.others = [] then [' '] else g.others)
  else g.first ++ g.others

/-- Passes over white space. After a line break no tab may stand before a column, if one is given. -/
def passGap (column : Option Nat) : (fuel : Nat) → Gap → Cursor → Except Problem (Gap × Cursor)
  | 0, g, c => .ok (g, c)
  | fuel + 1, g, c =>
    match c.next? with
    | none => .ok (g, c)
    | some d =>
      if isBlank d then
        if g.broken && d == '\t' && column.any (c.column < ·) then .error .tab
        else passGap column fuel (if g.broken then g else { g with blanks := g.blanks ++ [d] }) (c.skip 1)
      else if isBreak d then
        let g : Gap :=
          if g.broken then { g with others := g.others ++ c.breakText }
          else { g with blanks := [], broken := true, first := c.breakText }
        passGap column fuel g c.skipBreak
      else .ok (g, c)

/-! ## Quoted texts -/

def escapeChar? : Char → Option Char
  | '0' => some '\x00'
  | 'a' => some '\x07'
  | 'b' => some '\x08'
  | 't' | '\t' => some '\t'
  | 'n' => some '\n'
  | 'v' => some '\x0b'
  | 'f' => some '\x0c'
  | 'r' => some '\x0d'
  | 'e' => some '\x1b'
  | ' ' => some ' '
  | '"' => some '"'
  | '/' => some '/'
  | '\\' => some '\\'
  | 'N' => some '\u0085'
  | '_' => some '\u00a0'
  | 'L' => some '\u2028'
  | 'P' => some '\u2029'
  | _ => none

/-- How many hexadecimal digits an escape takes. -/
def escapeDigits? : Char → Option Nat
  | 'x' => some 2
  | 'u' => some 4
  | 'U' => some 8
  | _ => none

def hexValue? (l : List Char) : Option Nat :=
  (l.mapM Text.Span.hexDigit?).map fun ds => ds.foldl (fun n d => 16 * n + d) 0

/-- The character of an escape, and how many characters it takes after the backslash. -/
def readEscape (c : Char) (r : List Char) : Except Problem (Char × Nat) :=
  match escapeChar? c, escapeDigits? c with
  | some d, _ => .ok (d, 1)
  | none, some n =>
    match hexValue? (r.take n) with
    | some v => if n ≤ r.length ∧ v.isValidChar then .ok (Char.ofNat v, n + 1) else .error .escape
    | none => .error .escape
  | none, none => .error .escape

/-- Reads up to white space or the closing quote, and past a line break that a backslash hides; the characters are
put in front of those read so far. Answers whether there was a hidden break. -/
def quotedWord (single : Bool) :
    (fuel : Nat) → List Char → Cursor → Except Problem (List Char × Bool × Cursor)
  | 0, acc, c => .ok (acc, false, c)
  | fuel + 1, acc, c =>
    match c.rest with
    | [] => .ok (acc, false, c)
    | d :: r =>
      if isSpace d then .ok (acc, false, c)
      else if single then
        if d = '\'' then
          if r.head? = some '\'' then quotedWord single fuel ('\'' :: acc) (c.skip 2) else .ok (acc, false, c)
        else quotedWord single fuel (d :: acc) (c.skip 1)
      else if d = '"' then .ok (acc, false, c)
      else if d = '\\' then
        match r with
        | [] => .error .escape
        | e :: r =>
          if isBreak e then .ok (acc, true, (c.skip 1).skipBreak)
          else
            match readEscape e r with
            | .ok (x, n) => quotedWord single fuel (x :: acc) (c.skip (n + 1))
            | .error p => .error p
      else quotedWord single fuel (d :: acc) (c.skip 1)

/-- Reads a quoted text from after its opening quote. -/
def quotedText (single : Bool) : (fuel : Nat) → List Char → Cursor → Except Problem (List Char × Cursor)
  | 0, _, _ => .error .unclosed
  | fuel + 1, acc, c => do
    if c.atDocumentMark || c.atEnd then throw .unclosed
    let (acc, hidden, c) ← quotedWord single (c.rest.length + 1) acc c
    if c.nextIs (if single then '\'' else '"') then return (acc.reverse, c.skip 1)
    let (gap, c) ← passGap none (c.rest.length + 1) { Gap.none with broken := hidden } c
    quotedText single fuel (gap.text.reverse ++ acc) c

def readQuoted (single : Bool) (c : Cursor) : Except Problem (String × Cursor) := do
  let (l, c) ← quotedText single (c.rest.length + 1) [] (c.skip 1)
  return (String.ofList l, c)

/-! ## Plain texts -/

/-- Characters that end a plain text in a flow collection. -/
def isFlowMark (c : Char) : Bool := c == ',' || c == '[' || c == ']' || c == '\x7b' || c == '\x7d'

/-- Reads a word of a plain text. -/
def plainWord (flow : Bool) : (fuel : Nat) → List Char → Cursor → Except Problem (List Char × Cursor)
  | 0, acc, c => .ok (acc, c)
  | fuel + 1, acc, c =>
    match c.rest with
    | [] => .ok (acc, c)
    | d :: r =>
      if isSpace d then .ok (acc, c)
      else if flow && d == ':' && r.head?.any fun e => isFlowMark e || e == '?' then .error .looseEntry
      else if (d == ':' && endsWord r) || (flow && isFlowMark d) then .ok (acc, c)
      else plainWord flow fuel (d :: acc) (c.skip 1)

/-- Reads a plain text word by word; also answers whether it was left at the beginning of a line. -/
def plainText (flow : Bool) (column : Nat) :
    (fuel : Nat) → Gap → List Char → Cursor → Except Problem (List Char × Bool × Cursor)
  | 0, g, acc, c => .ok (acc.reverse, g.broken, c)
  | fuel + 1, g, acc, c => do
    if c.atDocumentMark || c.nextIs '#' then return (acc.reverse, g.broken, c)
    let (word, c) ← plainWord flow (c.rest.length + 1) [] c
    let (acc, g) := if word = [] then (acc, g) else (word ++ g.text.reverse ++ acc, Gap.none)
    if !(c.nextBlank || c.nextBreak) then return (acc.reverse, g.broken, c)
    let (g, c) ← passGap (some column) (c.rest.length + 1) g c
    if !flow && c.column < column then return (acc.reverse, g.broken, c)
    plainText flow column fuel g acc c

def readPlain (flow : Bool) (column : Nat) (c : Cursor) : Except Problem (String × Bool × Cursor) := do
  let (l, left, c) ← plainText flow column (c.rest.length + 1) .none [] c
  return (String.ofList l, left, c)

/-! ## Blocks -/

/-- What becomes of the line breaks at the end of a block. -/
inductive Chomping where
  | strip
  | clip
  | keep
deriving DecidableEq, Repr

structure BlockHeader where
  chomping : Chomping
  /-- How much deeper the block is indented than what it stands in, if that is said. -/
  depth : Option Nat

def chomping? : Option Char → Option Chomping
  | some '+' => some .keep
  | some '-' => some .strip
  | _ => none

def depth? (c : Option Char) : Except Problem (Option Nat) :=
  match c with
  | some '0' => .error .blockHeader
  | some d => .ok (if d.isDigit then some (d.toNat - '0'.toNat) else none)
  | none => .ok none

/-- Reads what follows the mark of a block in its line: the two indicators come in any order. -/
def blockHeader (c : Cursor) : Except Problem (BlockHeader × Cursor) :=
  match chomping? c.next? with
  | some k => do
    let c := c.skip 1
    match ← depth? c.next? with
    | some n => return (⟨k, some n⟩, c.skip 1)
    | none => return (⟨k, none⟩, c)
  | none => do
    match ← depth? c.next? with
    | some n =>
      let c := c.skip 1
      match chomping? c.next? with
      | some k => return (⟨k, some n⟩, c.skip 1)
      | none => return (⟨.clip, some n⟩, c)
    | none => return (⟨.clip, none⟩, c)

/-- Passes over indentation and empty lines. While the depth of the block is open, `deepest` is the deepest
indentation so far. -/
def blockBreaks (indent : Option Nat) :
    (fuel : Nat) → (deepest : Nat) → List Char → Cursor → Except Problem (Nat × List Char × Cursor)
  | 0, deepest, acc, c => .ok (deepest, acc, c)
  | fuel + 1, deepest, acc, c =>
    let spaces := (c.rest.takeWhile (· == ' ')).length
    let c := c.skip (match indent with
      | some n => min spaces (n - c.column)
      | none => spaces)
    let deepest := max deepest c.column
    if c.nextIs '\t' && indent.all (c.column < ·) then .error .tab
    else if c.nextBreak then blockBreaks indent fuel deepest (acc ++ c.breakText) c.skipBreak
    else .ok (deepest, acc, c)

/-- A block while it is read: the text so far in reverse, the break after the last line, the breaks after that, and
whether the last line began with a blank. -/
structure Block where
  text : List Char
  last : List Char
  others : List Char
  blank : Bool

def Block.append (b : Block) (l : List Char) : List Char := l.reverse ++ b.text

/-- Reads the lines of a block. -/
def blockLines (literal : Bool) (indent : Nat) : (fuel : Nat) → Block → Cursor → Except Problem (Block × Cursor)
  | 0, b, c => .ok (b, c)
  | fuel + 1, b, c =>
    if c.column ≠ indent ∨ c.atEnd then .ok (b, c)
    else do
      let blank := c.nextBlank
      let folded := !literal && b.last.head? == some '\n' && !b.blank && !blank
      let gap := if folded then (if b.others = [] then [' '] else []) else b.last
      let line := c.rest.takeWhile fun d => !isBreak d
      let text := line.reverse ++ b.append (gap ++ b.others)
      let c := c.skipLine
      let last := c.breakText
      let (_, others, c) ← blockBreaks (some indent) (c.rest.length + 1) 0 [] c.skipBreak
      blockLines literal indent fuel ⟨text, last, others, blank⟩ c

/-- Reads a block from its mark on; `indent` is the indentation of what it stands in, none at the top. -/
def readBlock (literal : Bool) (indent : Option Nat) (c : Cursor) : Except Problem (String × Cursor) := do
  let (header, c) ← blockHeader (c.skip 1)
  let c ← c.skipLineEnd .blockHeader
  let given := header.depth.map (indent.getD 0 + ·)
  let (deepest, breaks, c) ← blockBreaks given (c.rest.length + 1) 0 [] c
  let least :=
    match indent with
    | some n => n + 1
    | none => 1
  let depth := given.getD (max deepest least)
  let (b, c) ← blockLines literal depth (c.rest.length + 1) ⟨[], [], breaks, false⟩ c
  let text :=
    match header.chomping with
    | .strip => b.text
    | .clip => b.append b.last
    | .keep => b.append (b.last ++ b.others)
  return (String.ofList text.reverse, c)

end Selenese.Yaml
