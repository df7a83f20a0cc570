import Selenese.Yaml.Scalar
import Selenese.Yaml.Token

/-!
# Selenese.Yaml.Scanner

The tokens of a whole text.

* Blocks have no brackets: their beginnings and ends are told by indentation.
* Whether a node is a key shows only at its colon. Until then it is remembered where a key could begin, on one line
  and within 1024 characters, and the token of the key is put there afterwards.
-/

namespace Selenese.Yaml

/-- A place where a key may have begun. -/
structure KeyStart where
  /-- The number of tokens before it. -/
  tokens : Nat
  index : Nat
  line : Nat
  column : Nat
  /-- Nothing but a key can stand there. -/
  required : Bool

structure Scanner where
  cursor : Cursor
  /-- The latest first. -/
  tokens : List Token
  /-- The indentation of the innermost block, none outside of blocks. -/
  indent : Option Nat
  outer : List (Option Nat)
  /-- For each flow collection and for the whole, where a key may have begun. -/
  key : Option KeyStart
  outerKeys : List (Option KeyStart)
  /-- Whether a key may begin here. -/
  keyAllowed : Bool

namespace Scanner

def start (l : List Char) : Scanner := ⟨.start l, [], none, [], none, [], true⟩

def flow (s : Scanner) : Bool := !s.outerKeys.isEmpty

def add (s : Scanner) (t : Token) : Scanner := { s with tokens := t :: s.tokens }

/-- Puts a token behind the first so many. -/
def addAt (s : Scanner) (place : Nat) (t : Token) : Scanner :=
  let later := s.tokens.length - place
  { s with tokens := s.tokens.take later ++ t :: s.tokens.drop later }

def allowKey (s : Scanner) (allowed : Bool) : Scanner := { s with keyAllowed := allowed }

def skip (s : Scanner) (n : Nat) : Scanner := { s with cursor := s.cursor.skip n }

/-! ## Indentation -/

/-- Ends the blocks that are indented deeper than a column; without a column, all blocks. -/
def closeBlocks (column : Option Nat) : (fuel : Nat) → Scanner → Scanner
  | 0, s => s
  | fuel + 1, s =>
    match s.indent with
    | none => s
    | some n =>
      if column.any (n ≤ ·) then s
      else closeBlocks column fuel { s.add .blockEnd with indent := s.outer.headD none, outer := s.outer.drop 1 }

def unroll (column : Option Nat) (s : Scanner) : Scanner :=
  if s.flow then s else closeBlocks column (s.outer.length + 1) s

/-- Begins a block at a column, unless one is there already. Its token is put behind the first so many. -/
def roll (column : Nat) (place : Nat) (t : Token) (s : Scanner) : Scanner :=
  if s.flow || s.indent.any (column ≤ ·) then s
  else { s.addAt place t with indent := some column, outer := s.indent :: s.outer }

/-! ## Keys -/

def isStale (c : Cursor) (k : KeyStart) : Bool := k.line < c.line || k.index + 1024 < c.index

/-- Forgets a key that has not come in time. -/
def dropStale (c : Cursor) : Option KeyStart → Except Problem (Option KeyStart)
  | none => .ok none
  | some k => if isStale c k then (if k.required then .error .looseKey else .ok none) else .ok (some k)

def dropStaleKeys (s : Scanner) : Except Problem Scanner := do
  let outer ← s.outerKeys.mapM (dropStale s.cursor)
  return { s with key := ← dropStale s.cursor s.key, outerKeys := outer }

/-- Gives up the key that may have begun. -/
def forgetKey (s : Scanner) : Except Problem Scanner :=
  if s.key.any KeyStart.required then .error .looseKey else .ok { s with key := none }

/-- Remembers that a key may begin here. -/
def rememberKey (s : Scanner) : Except Problem Scanner := do
  if !s.keyAllowed then return s
  let c := s.cursor
  let required := !s.flow && s.indent == some c.column
  let s ← s.forgetKey
  return { s with key := some ⟨s.tokens.length, c.index, c.line, c.column, required⟩ }

/-! ## Tokens -/

/-- Passes over blanks, comments and line ends. Tabs count as blanks where no key can begin. -/
def toNextToken : (fuel : Nat) → Scanner → Scanner
  | 0, s => s
  | fuel + 1, s =>
    let tabs := s.flow || !s.keyAllowed
    let c := if s.cursor.index = 0 ∧ s.cursor.nextIs '\ufeff' then s.cursor.skip 1 else s.cursor
    let c := c.skipWhile fun d => d == ' ' || (tabs && d == '\t')
    let c := if c.nextIs '#' then c.skipLine else c
    let s := { s with cursor := c }
    if c.nextBreak then toNextToken fuel { s with cursor := c.skipBreak, keyAllowed := s.keyAllowed || !s.flow }
    else s

def documentMark (t : Token) (s : Scanner) : Except Problem Scanner := do
  let s ← (s.unroll none).forgetKey
  return ((s.allowKey false).skip 3).add t

def openFlow (t : Token) (s : Scanner) : Except Problem Scanner := do
  let s ← s.rememberKey
  return (({ s with key := none, outerKeys := s.key :: s.outerKeys }.allowKey true).skip 1).add t

def closeFlow (t : Token) (s : Scanner) : Except Problem Scanner := do
  let s ← s.forgetKey
  let s :=
    match s.outerKeys with
    | [] => s
    | k :: r => { s with key := k, outerKeys := r }
  return ((s.allowKey false).skip 1).add t

/-- An entry of a sequence, or a key that is marked as one. Outside of flow collections it may begin a block. -/
def entry (block t : Token) (keyAfter : Bool) (s : Scanner) : Except Problem Scanner := do
  if !s.flow && !s.keyAllowed then throw .looseEntry
  let s := s.roll s.cursor.column s.tokens.length block
  let s ← s.forgetKey
  return ((s.allowKey keyAfter).skip 1).add t

/-- A colon: it makes a key of the node that it follows, or ends a key that was marked as one. -/
def colon (s : Scanner) : Except Problem Scanner :=
  match s.key with
  | some k =>
    let s := (s.addAt k.tokens .key).roll k.column k.tokens .blockMapping
    .ok (({ s with key := none }.allowKey false).skip 1 |>.add .value)
  | none =>
    if !s.flow && !s.keyAllowed then .error .looseEntry
    else
      let s := s.roll s.cursor.column s.tokens.length .blockMapping
      .ok ((s.allowKey (!s.flow)).skip 1 |>.add .value)

/-- A token that may be a key or begin one. -/
def node (read : Cursor → Except Problem (Token × Cursor)) (s : Scanner) : Except Problem Scanner := do
  let s ← s.rememberKey
  let (t, c) ← read s.cursor
  return ({ s with cursor := c }.allowKey false).add t

def quoted (single : Bool) (s : Scanner) : Except Problem Scanner :=
  s.node fun c => do
    let (text, c) ← readQuoted single c
    return (.scalar text false, c)

def named (make : String → Token) (s : Scanner) : Except Problem Scanner :=
  s.node fun c => do
    let (name, c) ← readAnchor c
    return (make name, c)

def block (literal : Bool) (s : Scanner) : Except Problem Scanner := do
  let s ← s.forgetKey
  let (text, c) ← readBlock literal s.indent s.cursor
  return ({ s with cursor := c }.allowKey true).add (.scalar text false)

/-- A plain text; a key may begin after it if it was left at the beginning of a line. -/
def plain (s : Scanner) : Except Problem Scanner := do
  let column :=
    match s.indent with
    | some n => n + 1
    | none => 0
  let s ← s.rememberKey
  let (text, left, c) ← readPlain s.flow column s.cursor
  return ({ s with cursor := c }.allowKey left).add (.scalar text true)

/-- Characters that begin no plain text. -/
def indicators : List Char := [
  '-', '?', ':', ',', '[', ']', '\x7b', '\x7d', '#', '&', '*', '!', '|', '>', '\'', '"', '%', '@', '\x60']

/-- Whether a plain text begins here: with an indicator only if it is a hyphen, or outside of flow collections a
question mark or a colon, that no white space follows. -/
def beginsPlain (flow : Bool) (c : Char) (r : List Char) : Bool :=
  if c = '-' then !(r.head?.any isBlank)
  else if c = '?' ∨ c = ':' then !flow && !endsWord r
  else !indicators.contains c && !isSpace c

/-- Reads the token that begins with a character. -/
def token (c : Char) (r : List Char) (s : Scanner) : Except Problem Scanner :=
  let lone := endsWord r
  if s.cursor.column = 0 ∧ c = '%' then do
    let s ← (s.unroll none).forgetKey
    let (t, cursor) ← readDirective s.cursor
    return ({ s with cursor := cursor }.allowKey false).add t
  else if s.cursor.atMark '-' then s.documentMark .documentStart
  else if s.cursor.atMark '.' then s.documentMark .documentEnd
  else if c = '[' then s.openFlow .flowSequence
  else if c = '\x7b' then s.openFlow .flowMapping
  else if c = ']' then s.closeFlow .flowSequenceEnd
  else if c = '\x7d' then s.closeFlow .flowMappingEnd
  else if c = ',' then do
    let s ← s.forgetKey
    return ((s.allowKey true).skip 1).add .flowEntry
  else if c = '-' ∧ lone then s.entry .blockSequence .blockEntry true
  else if c = '?' ∧ (s.flow ∨ lone) then s.entry .blockMapping .key (!s.flow)
  else if c = ':' ∧ (s.flow ∨ lone) then s.colon
  else if c = '*' then s.named .alias
  else if c = '&' then s.named .anchor
  else if c = '!' then s.node (readTag s.flow)
  else if c = '|' ∧ !s.flow then s.block true
  else if c = '>' ∧ !s.flow then s.block false
  else if c = '\'' then s.quoted true
  else if c = '"' then s.quoted false
  else if beginsPlain s.flow c r then s.plain
  else .error .token

def scan : (fuel : Nat) → Scanner → Except Problem (List Token)
  | 0, s => .ok s.tokens.reverse
  | fuel + 1, s => do
    let s ← (s.toNextToken (s.cursor.rest.length + 1)).dropStaleKeys
    let s := s.unroll (some s.cursor.column)
    match s.cursor.rest with
    | [] => return (← (s.unroll none).forgetKey).tokens.reverse
    | c :: r => scan fuel (← s.token c r)

end Scanner

/-- The tokens of a text; every character of it has to be one that a document can hold. -/
def tokens (source : String) : Except Problem (List Token) :=
  let l := source.toList
  if l.all isPrintable then (Scanner.start l).scan (l.length + 1) else .error .character

end Selenese.Yaml
