import Selenese.Yaml.Cursor

/-!
# Selenese.Yaml.Token

The tokens of a YAML document, and how directives, anchors and tags are read.
-/

namespace Selenese.Yaml

inductive Token where
  | version (major minor : Nat)
  /-- A handle of tags and what it stands for. -/
  | tagHandle (handle start : String)
  | documentStart
  | documentEnd
  | blockSequence
  | blockMapping
  | blockEnd
  | flowSequence
  | flowSequenceEnd
  | flowMapping
  | flowMappingEnd
  | blockEntry
  | flowEntry
  | key
  | value
  | alias (name : String)
  | anchor (name : String)
  | tag (handle rest : String)
  | scalar (text : String) (plain : Bool)
deriving DecidableEq, Repr

/-! ## Anchors -/

def endsAnchor (l : List Char) : Bool :=
  match l with
  | [] => true
  | c :: _ => isSpace c || ['?', ':', ',', ']', '\x7d', '%', '@', '\x60'].contains c

/-- Reads a name after its mark. -/
def readAnchor (c : Cursor) : Except Problem (String × Cursor) :=
  let c := c.skip 1
  let name := c.rest.takeWhile isNameChar
  let c := c.skip name.length
  if name = [] ∨ !endsAnchor c.rest then .error .anchor else .ok (String.ofList name, c)

/-! ## Tags -/

/-- The number of bytes of a character that begins with a byte. -/
def byteCount? (n : Nat) : Option Nat :=
  if n < 0x80 then some 1
  else if n / 0x20 = 6 then some 2
  else if n / 0x10 = 14 then some 3
  else if n / 8 = 30 then some 4
  else none

/-- Reads a byte written as a percent sign and two digits. -/
def percentByte? : List Char → Option (Nat × List Char)
  | '%' :: a :: b :: r =>
    match hexDigit? a, hexDigit? b with
    | some m, some n => some (16 * m + n, r)
    | _, _ => none
  | _ => none
where
  hexDigit? (c : Char) : Option Nat :=
    if c.isDigit then some (c.toNat - '0'.toNat)
    else if 'a' ≤ c ∧ c ≤ 'f' then some (c.toNat - 'a'.toNat + 10)
    else if 'A' ≤ c ∧ c ≤ 'F' then some (c.toNat - 'A'.toNat + 10)
    else none

/-- Reads further bytes of a character. -/
def moreBytes? : (count : Nat) → Nat → List Char → Option (Nat × List Char)
  | 0, n, l => some (n, l)
  | count + 1, n, l =>
    match percentByte? l with
    | some (b, r) => if b / 0x40 = 2 then moreBytes? count (0x40 * n + b % 0x40) r else none
    | none => none

/-- Reads a character written as bytes; also the number of bytes. -/
def percentChar? (l : List Char) : Option (Char × Nat) := do
  let (b, r) ← percentByte? l
  let count ← byteCount? b
  let start := if count = 1 then b else b % (1 <<< (7 - count))
  let (n, _) ← moreBytes? (count - 1) start r
  return (Char.ofNat n, count)

/-- Characters of a tag; between angle brackets there are some more. -/
def isTagChar (bracketed : Bool) (c : Char) : Bool :=
  isNameChar c || [';', '/', '?', ':', '@', '&', '=', '+', '$', '.', '%', '!', '~', '*', '\'', '(', ')'].contains c
    || (bracketed && (c == ',' || c == '[' || c == ']'))

def tagChars (bracketed : Bool) : (fuel : Nat) → List Char → Cursor → Except Problem (List Char × Cursor)
  | 0, acc, c => .ok (acc.reverse, c)
  | fuel + 1, acc, c =>
    match c.rest with
    | [] => .ok (acc.reverse, c)
    | d :: _ =>
      if !isTagChar bracketed d then .ok (acc.reverse, c)
      else if d = '%' then
        match percentChar? c.rest with
        | some (e, n) => tagChars bracketed fuel (e :: acc) (c.skip (3 * n))
        | none => .error .tag
      else tagChars bracketed fuel (d :: acc) (c.skip 1)

/-- Reads the characters of a tag; `head` was read before, and its exclamation mark is not part of it. -/
def readTagChars (bracketed : Bool) (head : List Char) (c : Cursor) : Except Problem (String × Cursor) := do
  let (l, c) ← tagChars bracketed (c.rest.length + 1) [] c
  if head = [] ∧ l = [] then throw .tag
  return (String.ofList (head.drop 1 ++ l), c)

/-- Reads an exclamation mark, a name, and another exclamation mark if it comes next. -/
def tagHandle (c : Cursor) : Except Problem (List Char × Cursor) :=
  match c.rest with
  | '!' :: r =>
    let name := r.takeWhile isNameChar
    let closed := (r.drop name.length).head? = some '!'
    let handle := '!' :: name ++ if closed then ['!'] else []
    .ok (handle, c.skip handle.length)
  | _ => .error .tag

/-- Whether a handle is closed by a second exclamation mark. -/
def isClosedHandle (handle : List Char) : Bool := 1 < handle.length && handle.getLast? == some '!'

/-- Reads a tag: between angle brackets, with a handle, or with the handle of local tags. -/
def readTag (flow : Bool) (c : Cursor) : Except Problem (Token × Cursor) := do
  let (token, c) ←
    if c.rest.drop 1 |>.head? |> (· == some '<') then do
      let (rest, c) ← readTagChars true [] (c.skip 2)
      if c.nextIs '>' then pure (Token.tag "" rest, c.skip 1) else throw .tag
    else do
      let (handle, c) ← tagHandle c
      if isClosedHandle handle then do
        let (rest, c) ← readTagChars false [] c
        pure (Token.tag (String.ofList handle) rest, c)
      else do
        let (rest, c) ← readTagChars false handle c
        pure (if rest = "" then Token.tag "" "!" else Token.tag "!" rest, c)
  if (flow && c.nextIs ',') || c.atWordEnd then return (token, c) else throw .tag

/-! ## Directives -/

/-- Reads a number of at most nine digits. -/
def readVersionNumber (c : Cursor) : Except Problem (Nat × Cursor) :=
  let digits := c.rest.takeWhile Char.isDigit
  if digits = [] ∨ 9 < digits.length then .error .directive
  else .ok (digits.foldl (fun n d => 10 * n + (d.toNat - '0'.toNat)) 0, c.skip digits.length)

def readVersion (c : Cursor) : Except Problem (Token × Cursor) := do
  let (major, c) ← readVersionNumber (c.skipWhile isBlank)
  if !c.nextIs '.' then throw .directive
  let (minor, c) ← readVersionNumber (c.skip 1)
  return (.version major minor, c)

def readTagHandle (c : Cursor) : Except Problem (Token × Cursor) := do
  let (handle, c) ← tagHandle (c.skipWhile isBlank)
  if !(isClosedHandle handle || handle = ['!']) || !c.nextBlank then throw .directive
  let (start, c) ← readTagChars true [] (c.skipWhile isBlank)
  if c.atWordEnd then return (.tagHandle (String.ofList handle) start, c) else throw .directive

/-- Reads a directive from its percent sign to the end of its line. -/
def readDirective (c : Cursor) : Except Problem (Token × Cursor) := do
  let c := c.skip 1
  let name := c.rest.takeWhile isNameChar
  let c := c.skip name.length
  if name = [] ∨ !c.atWordEnd then throw .directive
  let (token, c) ←
    match String.ofList name with
    | "YAML" => readVersion c
    | "TAG" => readTagHandle c
    | _ => throw .directive
  return (token, ← c.skipLineEnd .directive)

end Selenese.Yaml
