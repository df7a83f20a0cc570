import Selenese.Yaml.Problem

/-!
# Selenese.Yaml.Cursor

A place in a YAML text, and the classes of characters that matter to the reading of it.
-/

namespace Selenese.Yaml

/-- What follows a place, how many characters precede it, and its line and column. -/
structure Cursor where
  rest : List Char
  index : Nat
  line : Nat
  column : Nat
deriving Repr

def isBlank (c : Char) : Bool := c == ' ' || c == '\t'

def isBreak (c : Char) : Bool :=
  c == '\n' || c == '\x0d' || c == '\u0085' || c == '\u2028' || c == '\u2029'

def isSpace (c : Char) : Bool := isBlank c || isBreak c

/-- Characters of names. -/
def isNameChar (c : Char) : Bool := c.isAlphanum || c == '_' || c == '-'

/-- Characters that a document can hold. -/
def isPrintable (c : Char) : Bool :=
  let n := c.toNat
  n == 0x9 || n == 0xa || n == 0xd || (0x20 ≤ n && n ≤ 0x7e) || n == 0x85 || (0xa0 ≤ n && n ≤ 0xfffd)
    || 0x10000 ≤ n

/-- Whether a text goes on with white space or ends. -/
def endsWord : List Char → Bool
  | [] => true
  | c :: _ => isSpace c

namespace Cursor

/-- The place before a text; a byte order mark at its beginning is not part of it. -/
def start (l : List Char) : Cursor :=
  match l with
  | '\ufeff' :: r => ⟨r, 0, 0, 0⟩
  | _ => ⟨l, 0, 0, 0⟩

def atEnd (c : Cursor) : Bool := c.rest.isEmpty

def next? (c : Cursor) : Option Char := c.rest.head?

def nextIs (c : Cursor) (d : Char) : Bool := c.rest.head? == some d

def nextBlank (c : Cursor) : Bool := c.rest.head?.any isBlank

def nextBreak (c : Cursor) : Bool := c.rest.head?.any isBreak

/-- Whether white space or the end comes next. -/
def atWordEnd (c : Cursor) : Bool := endsWord c.rest

/-- Whether a line break or the end comes next. -/
def atLineEnd (c : Cursor) : Bool := c.atEnd || c.nextBreak

/-- Past some characters of a line. -/
def skip (c : Cursor) (n : Nat) : Cursor := ⟨c.rest.drop n, c.index + n, c.line, c.column + n⟩

/-- Past the characters of a kind. -/
def skipWhile (c : Cursor) (p : Char → Bool) : Cursor := c.skip (c.rest.takeWhile p).length

/-- Past a line break. -/
def skipBreak (c : Cursor) : Cursor :=
  match c.rest with
  | '\x0d' :: '\n' :: r => ⟨r, c.index + 2, c.line + 1, 0⟩
  | d :: r => if isBreak d then ⟨r, c.index + 1, c.line + 1, 0⟩ else c
  | [] => c

/-- What a line break means in a text. -/
def breakText (c : Cursor) : List Char :=
  match c.rest with
  | d :: _ => if d = '\u2028' ∨ d = '\u2029' then [d] else if isBreak d then ['\n'] else []
  | [] => []

/-- Past the rest of a line. -/
def skipLine (c : Cursor) : Cursor := c.skipWhile fun d => !isBreak d

/-- Past blanks and a comment; then the line has to end. -/
def skipLineEnd (c : Cursor) (problem : Problem) : Except Problem Cursor :=
  let c := c.skipWhile isBlank
  let c := if c.nextIs '#' then c.skipLine else c
  if c.atLineEnd then .ok c.skipBreak else .error problem

/-- Whether a mark of three characters stands at the beginning of a line. -/
def atMark (c : Cursor) (mark : Char) : Bool :=
  c.column == 0 && c.rest.take 3 == [mark, mark, mark] && endsWord (c.rest.drop 3)

def atDocumentMark (c : Cursor) : Bool := c.atMark '-' || c.atMark '.'

end Cursor

end Selenese.Yaml
