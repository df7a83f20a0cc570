import Selenese.Pattern.Regex.Basic
import Selenese.Pattern.Regex.Problem
import Selenese.Text.Decimal

/-!
# Selenese.Pattern.Regex.Parser

Reading regular expressions.

* `Flags` are the settings that `(?…)` changes up to the end of its group.
* `escape`, `class` and `count` read an escape, a class in brackets and a counted repetition, each after
  its first character, and return what follows.
* `alternation` reads an expression up to a closing parenthesis or the end of the text. Every step takes a
  character, so the length of the text bounds the steps.
* `parse` reads a whole text.
-/

namespace Selenese.Regex

open Text

structure Flags where
  caseless : Bool
  multiLine : Bool
  dotAll : Bool
  crlf : Bool
  unicode : Bool
  /-- Blanks and comments are left out. -/
  extended : Bool
  /-- Repetitions prefer to be short. -/
  lazy : Bool
deriving DecidableEq, Repr

def Flags.standard : Flags := ⟨false, false, false, false, true, false, false⟩

/-- Drops blanks and comments; a comment runs from `#` to the end of its line. -/
def dropIgnored : (inComment : Bool) → List Char → List Char
  | _, [] => []
  | true, c :: r => dropIgnored (c ≠ '\n') r
  | false, c :: r =>
    if isBlank c then dropIgnored false r else if c = '#' then dropIgnored true r else c :: r

def Flags.skip (f : Flags) (l : List Char) : List Char := if f.extended then dropIgnored false l else l

/-- Characters with a meaning of their own in patterns. -/
def isMeta (c : Char) : Bool := "\\.+*?()|[]\x7b\x7d^$#&-~".toList.contains c

/-- The pattern that matches a text and nothing else. -/
def escaped (l : List Char) : List Char := l.flatMap fun c => if isMeta c then ['\\', c] else [c]

/-- Characters that may follow a backslash and then stand for themselves. -/
def isEscapable (c : Char) : Bool :=
  isMeta c || (c.toNat < 128 && !c.isAlphanum && c != '<' && c != '>')

/-! ## Escapes -/

inductive Escape where
  | literal (c : Char)
  | set (s : CharSet)
  | look (l : Look)

/-- The character with a given number; without Unicode, two digits must stay within ASCII. -/
def numbered (f : Flags) (twoDigits : Bool) (n : Nat) : Except Problem Char :=
  if ¬ n.isValidChar then .error .badNumber
  else if twoDigits && !f.unicode && 0x80 ≤ n then .error .beyondAscii
  else .ok (Char.ofNat n)

/-- Reads a fixed number of hexadecimal digits, the first of them at once. -/
def fixedHex (f : Flags) : (digits : Nat) → Nat → List Char → Except Problem (Nat × List Char)
  | 0, n, l => .ok (n, l)
  | k + 1, n, c :: r =>
    match Span.hexDigit? c with
    | some d => fixedHex f k (16 * n + d) (f.skip r)
    | none => .error .badNumber
  | _ + 1, _, [] => .error .badNumber

/-- Reads hexadecimal digits up to a closing brace. -/
def bracedHex (f : Flags) (seen : Bool) : (fuel : Nat) → Nat → List Char → Except Problem (Nat × List Char)
  | 0, _, _ => .error .badNumber
  | k + 1, n, l =>
    match f.skip l with
    | '\x7d' :: r => if seen then .ok (n, f.skip r) else .error .badNumber
    | c :: r =>
      match Span.hexDigit? c with
      | some d => bracedHex f true k (16 * n + d) r
      | none => .error .badNumber
    | [] => .error .badNumber

def hex (f : Flags) (digits : Nat) (l : List Char) : Except Problem (Escape × List Char) := do
  match f.skip l with
  | '\x7b' :: r =>
    let (n, r) ← bracedHex f false r.length.succ 0 r
    return (.literal (← numbered f false n), r)
  | l =>
    let (n, r) ← fixedHex f digits 0 l
    return (.literal (← numbered f (digits == 2) n), r)

/-- A class under case and negation: first it takes in what differs in case, then its complement is taken. -/
def closeClass (f : Flags) (negated : Bool) (s : CharSet) : CharSet :=
  let s := if f.caseless then .fold (!f.unicode) s else s
  if negated then .negate s else s

/-- The characters up to a closing brace. -/
def bracedName (f : Flags) : (fuel : Nat) → List Char → Except Problem (List Char × List Char)
  | 0, _ => .error .badEscape
  | k + 1, l =>
    match f.skip l with
    | '\x7d' :: r => .ok ([], r)
    | c :: r => do
      let (name, r) ← bracedName f k r
      return (c :: name, r)
    | [] => .error .badEscape

/-- Cuts a text at the first occurrence of a mark. -/
def cutAt (mark : List Char) : List Char → Option (List Char × List Char)
  | [] => none
  | c :: r =>
    match mark.isPrefixOf? (c :: r) with
    | some rest => some ([], rest)
    | none => (cutAt mark r).map fun (a, b) => (c :: a, b)

/-- The class that stands between the braces of `\p`, and whether it is negated there. -/
def classNamed (name : List Char) : Option CharSet × Bool :=
  let value (p : List Char × List Char) := CharSet.propertyValue? (String.ofList p.1) (String.ofList p.2)
  match cutAt ['!', '='] name with
  | some p => (value p, true)
  | none =>
    match (cutAt [':'] name).or (cutAt ['='] name) with
    | some p => (value p, false)
    | none => (CharSet.property? (String.ofList name), false)

def unicodeClass (f : Flags) (negated : Bool) (l : List Char) : Except Problem (Escape × List Char) := do
  if !f.unicode then throw .beyondAscii
  let ((found, inverted), r) ← match f.skip l with
    | '\x7b' :: r => do
      let (name, r) ← bracedName f r.length.succ r
      pure (classNamed name, r)
    | '\\' :: _ | [] => throw .badEscape
    | c :: r => pure ((CharSet.property? c.toString, false), f.skip r)
  match found with
  | some s => return (.set (closeClass f (negated != inverted) s), r)
  | none => throw .unknownClass

/-- A class of one letter; without Unicode it holds ASCII alone and has no complement. -/
def letterClass (f : Flags) (negated : Bool) (wide ascii : CharSet) : Except Problem Escape :=
  if f.unicode then .ok (.set (if negated then .negate wide else wide))
  else if negated then .error .beyondAscii
  else .ok (.set ascii)

/-- What follows `\b`: a word boundary, or the half or whole boundary named in braces. -/
def boundary (f : Flags) (l : List Char) : Except Problem (Escape × List Char) :=
  let plain : Except Problem (Escape × List Char) := .ok (.look (.wordBoundary (!f.unicode)), l)
  let isName (c : Char) : Bool := c.isAlpha || c == '-'
  match l with
  | '\x7b' :: r =>
    match f.skip r with
    | [] => .error .badEscape
    | c :: _ =>
      if !isName c then plain
      else do
        let (name, r) ← bracedName f r.length.succ r
        match String.ofList name with
        | "start" => return (.look (.wordStart (!f.unicode)), r)
        | "end" => return (.look (.wordEnd (!f.unicode)), r)
        | "start-half" => return (.look (.wordStartHalf (!f.unicode)), r)
        | "end-half" => return (.look (.wordEndHalf (!f.unicode)), r)
        | _ => throw .badEscape
  | _ => plain

/-- Reads what follows a backslash. -/
def escape (f : Flags) : List Char → Except Problem (Escape × List Char)
  | [] => .error .badEscape
  | c :: r =>
    if c.isDigit then .error .backreference
    else if isEscapable c then .ok (.literal c, r)
    else match c with
      | 'x' => hex f 2 r
      | 'u' => hex f 4 r
      | 'U' => hex f 8 r
      | 'p' => unicodeClass f false r
      | 'P' => unicodeClass f true r
      | 'd' => return (← letterClass f false .digit .asciiDigit, r)
      | 'D' => return (← letterClass f true .digit .asciiDigit, r)
      | 's' => return (← letterClass f false .blank .asciiBlank, r)
      | 'S' => return (← letterClass f true .blank .asciiBlank, r)
      | 'w' => return (← letterClass f false .word .asciiWord, r)
      | 'W' => return (← letterClass f true .word .asciiWord, r)
      | 'a' => .ok (.literal '\x07', r)
      | 'f' => .ok (.literal '\x0c', r)
      | 't' => .ok (.literal '\t', r)
      | 'n' => .ok (.literal '\n', r)
      | 'r' => .ok (.literal '\r', r)
      | 'v' => .ok (.literal '\x0b', r)
      | 'A' => .ok (.look .start, r)
      | 'z' => .ok (.look .finish, r)
      | 'b' => boundary f r
      | 'B' => .ok (.look (.notWordBoundary (!f.unicode)), r)
      | '<' => .ok (.look (.wordStart (!f.unicode)), r)
      | '>' => .ok (.look (.wordEnd (!f.unicode)), r)
      | _ => .error .badEscape

/-! ## Classes in brackets -/

inductive SetOperator where
  | inter
  | diff
  | exclusive

def unionAll : List CharSet → CharSet
  | [] => .empty
  | [s] => s
  | s :: l => .union s (unionAll l)

/-- A class being read: whether it is negated, its items since the last set operator, latest first, and that
operator with what stands before it. -/
structure ClassFrame where
  negated : Bool
  items : List CharSet
  pending : Option (SetOperator × CharSet)

/-- Applies the pending operator; set operators group to the left. -/
def ClassFrame.value (f : Flags) (c : ClassFrame) : CharSet :=
  let s := unionAll c.items.reverse
  let close (s : CharSet) := if f.caseless then CharSet.fold (!f.unicode) s else s
  match c.pending with
  | none => s
  | some (.inter, t) => .inter (close t) (close s)
  | some (.diff, t) => .diff (close t) (close s)
  | some (.exclusive, t) => .exclusive (close t) (close s)

def ClassFrame.push (c : ClassFrame) (s : CharSet) : ClassFrame := { c with items := s :: c.items }

def ClassFrame.operate (f : Flags) (c : ClassFrame) (o : SetOperator) : ClassFrame :=
  { c with items := [], pending := some (o, c.value f) }

/-- Reads the start of a class, after its bracket: a negation, hyphens, and a bracket that stands first. -/
def openClass (f : Flags) (l : List Char) : Except Problem (ClassFrame × List Char) :=
  let (negated, l) := match f.skip l with
    | '^' :: r => (true, f.skip r)
    | l => (false, l)
  let hyphens (k : Nat) : List CharSet := List.replicate k (.single '-')
  let rec dropHyphens (k : Nat) : List Char → Nat × List Char
    | '-' :: r => if f.extended then (k, '-' :: r) else dropHyphens (k + 1) r
    | l => (k, l)
  let rec dropSpaced (fuel k : Nat) (l : List Char) : Nat × List Char :=
    match fuel, l with
    | n + 1, '-' :: r => dropSpaced n (k + 1) (f.skip r)
    | _, l => (k, l)
  let (k, l) := if f.extended then dropSpaced l.length 0 l else dropHyphens 0 l
  match k, l with
  | _, [] => .error .unclosedClass
  | 0, ']' :: r => .ok (⟨negated, [.single ']'], none⟩, f.skip r)
  | k, l => .ok (⟨negated, hyphens k, none⟩, l)

/-- A class of POSIX, after its bracket. -/
def posixClass? (f : Flags) : List Char → Option (CharSet × List Char)
  | ':' :: r =>
    let (negated, r) := match r with
      | '^' :: r => (true, r)
      | r => (false, r)
    let name := r.takeWhile (· ≠ ':')
    match r.drop name.length, CharSet.posix? (String.ofList name) with
    | ':' :: ']' :: rest, some s => some (closeClass f negated s, rest)
    | _, _ => none
  | _ => none

/-- One item of a class: a character, or an escape. -/
def classItem (f : Flags) : List Char → Except Problem (Escape × List Char)
  | '\\' :: r => escape f r
  | c :: r => .ok (.literal c, r)
  | [] => .error .unclosedClass

def literalOf (f : Flags) (e : Escape) (problem : Problem) : Except Problem Char :=
  match e with
  | .literal c => if !f.unicode && 0x80 ≤ c.toNat then .error .beyondAscii else .ok c
  | _ => .error problem

def itemSet (f : Flags) : Escape → Except Problem CharSet
  | .set s => .ok s
  | e => do return .single (← literalOf f e .badClassItem)

/-- One item, or two characters with a hyphen between them. A hyphen before the closing bracket or another
hyphen makes no range. -/
def classRange (f : Flags) (l : List Char) : Except Problem (CharSet × List Char) := do
  let (e, r) ← classItem f l
  match f.skip r with
  | [] => throw .unclosedClass
  | '-' :: r =>
    match f.skip r with
    | ']' :: _ | '-' :: _ => return (← itemSet f e, '-' :: r)
    | [] => throw .unclosedClass
    | r =>
      let (e', r) ← classItem f r
      let lo ← literalOf f e .badRange
      let hi ← literalOf f e' .badRange
      if hi < lo then throw .badRange
      return (.range lo hi, r)
  | r => return (← itemSet f e, r)

def closeFrame (f : Flags) (c : ClassFrame) : Except Problem CharSet :=
  let s := CharSet.bracket (closeClass f c.negated (c.value f))
  if !f.unicode && !s.isAscii then .error .beyondAscii else .ok s

/-- Reads a class up to its closing bracket; `outer` are the classes around it, innermost first. -/
def classLoop (f : Flags) :
    (fuel : Nat) → (outer : List ClassFrame) → ClassFrame → List Char → Except Problem (CharSet × List Char)
  | 0, _, _, _ => .error .unclosedClass
  | n + 1, outer, c, l =>
    match f.skip l with
    | [] => .error .unclosedClass
    | '[' :: r =>
      match posixClass? f r with
      | some (s, r) => classLoop f n outer (c.push s) r
      | none => do
        let (inner, r) ← openClass f r
        classLoop f n (c :: outer) inner r
    | ']' :: r => do
      let s ← closeFrame f c
      match outer with
      | [] => return (s, r)
      | d :: outer => classLoop f n outer (d.push s) r
    | '&' :: '&' :: r => classLoop f n outer (c.operate f .inter) r
    | '-' :: '-' :: r => classLoop f n outer (c.operate f .diff) r
    | '~' :: '~' :: r => classLoop f n outer (c.operate f .exclusive) r
    | l => do
      let (s, r) ← classRange f l
      classLoop f n outer (c.push s) r

/-- Reads a class after its opening bracket. -/
def bracketClass (f : Flags) (l : List Char) : Except Problem (CharSet × List Char) := do
  let (c, r) ← openClass f l
  classLoop f (2 * l.length + 2) [] c r

/-! ## Repetitions -/

/-- Digits, with blanks around them. -/
def countNumber (f : Flags) (l : List Char) : Except Problem (Nat × List Char) :=
  let rec digits : (fuel : Nat) → List Char → List Char × List Char
    | n + 1, c :: r =>
      if c.isDigit then
        let (ds, r) := digits n (f.skip r)
        (c :: ds, r)
      else ([], c :: r)
    | _, l => ([], l)
  let l := l.dropWhile isBlank
  let (ds, r) := digits l.length l
  match ds, readDigits maxCount 0 ds with
  | _ :: _, .ok n => .ok (n, f.skip (r.dropWhile isBlank))
  | _, _ => .error .badCount

/-- Reads the numbers of a counted repetition, after its opening brace. -/
def count (f : Flags) (l : List Char) : Except Problem ((Nat × Option Nat) × List Char) := do
  let (min, r) ← countNumber f (f.skip l)
  let ((min, max), r) ← match r with
    | ',' :: r =>
      match f.skip r with
      | '\x7d' :: r => pure ((min, none), '\x7d' :: r)
      | r => do
        let (max, r) ← countNumber f r
        pure ((min, some max), r)
    | r => pure ((min, some min), r)
  match r with
  | '\x7d' :: r =>
    if max.any (· < min) then throw .badCount
    return ((min, max), f.skip r)
  | _ => throw .badCount

/-- What a repetition prefers: a question mark after it turns the preference in force round. -/
def preference (f : Flags) : List Char → Bool × List Char
  | '?' :: r => (!f.lazy, r)
  | r => (f.lazy, r)

/-! ## Groups -/

def setFlag (f : Flags) (on : Bool) : Char → Except Problem Flags
  | 'i' => .ok { f with caseless := on }
  | 'm' => .ok { f with multiLine := on }
  | 's' => .ok { f with dotAll := on }
  | 'R' => .ok { f with crlf := on }
  | 'u' => .ok { f with unicode := on }
  | 'x' => .ok { f with extended := on }
  | 'U' => .ok { f with lazy := on }
  | _ => .error .badFlags

/-- Reads flags up to a colon or a closing parenthesis, which it leaves. No flag stands twice, and a hyphen
stands once and not last. -/
def flags (seen : List Char) (f : Flags) : List Char → Except Problem (Flags × List Char)
  | [] => .error .badFlags
  | c :: r =>
    if c = ':' ∨ c = ')' then
      if seen.head? = some '-' then .error .badFlags else .ok (f, c :: r)
    else if seen.contains c then .error .badFlags
    else if c = '-' then flags (c :: seen) f r
    else match setFlag f (!seen.contains '-') c with
      | .ok f => flags (c :: seen) f r
      | .error e => .error e

/-- The characters of group names. -/
def isNameChar (first : Bool) (c : Char) : Bool :=
  c == '_' || Span.any Property.alphabetic c.toNat ||
    (!first && (c == '.' || c == '[' || c == ']' || Span.any Category.number c.toNat))

/-- Reads a group name up to its closing bracket. -/
def groupName (l : List Char) : Except Problem (List Char × List Char) :=
  let name := l.takeWhile (· ≠ '>')
  match name, l.drop name.length with
  | c :: cs, '>' :: r => if isNameChar true c && cs.all (isNameChar false) then .ok (name, r) else .error .badGroupName
  | _, _ => .error .badGroupName

/-- Where the reader stands: the flags in force, the group names so far, how many groups were numbered, and
the rest of the text. -/
structure Cursor where
  flags : Flags
  names : List (List Char)
  groups : Nat
  rest : List Char

/-- What a parenthesis opens: flags that hold from here on, or a group with its number if it has one. -/
inductive Opening where
  | flags
  | group (number : Option Nat)

/-- Gives the next number to a group. -/
def Cursor.number (c : Cursor) : Opening × Cursor :=
  (.group (some (c.groups + 1)), { c with groups := c.groups + 1 })

/-- Reads the start of a group, after its parenthesis. -/
def openGroup (c : Cursor) : Except Problem (Opening × Cursor) :=
  let lookAround := [['?', '='], ['?', '!'], ['?', '<', '='], ['?', '<', '!']]
  let l := c.flags.skip c.rest
  if lookAround.any (·.isPrefixOf l) then .error .lookAround
  else
    match ("?P<".toList.isPrefixOf? l).or ("?<".toList.isPrefixOf? l) with
    | some r => do
      let (name, r) ← groupName r
      if c.names.contains name then throw .repeatedGroupName
      return { c with names := name :: c.names, rest := r }.number
    | none =>
      match l with
      | '?' :: r => do
        let (f, r') ← flags [] c.flags r
        match r' with
        | ':' :: r' => return (.group none, { c with flags := f, rest := r' })
        | _ =>
          if r.head? = some ')' then throw .missingOperand
          else return (.flags, { c with flags := f, rest := r'.drop 1 })
      | l => .ok { c with rest := l }.number

/-! ## Expressions -/

def literal (f : Flags) (c : Char) : Regex :=
  .set (if f.caseless then .fold (!f.unicode) (.single c) else .single c)

def dot (f : Flags) : Except Problem Regex :=
  if !f.unicode then .error .beyondAscii
  else if f.dotAll then .ok (.set .all)
  else if f.crlf then .ok (.set (.negate (.union (.single '\n') (.single '\r'))))
  else .ok (.set (.negate (.single '\n')))

/-- A part that is neither a group, a class nor a repetition. -/
def primitive (f : Flags) : List Char → Except Problem (Regex × List Char)
  | [] => .ok (.empty, [])
  | '\\' :: r => do
    let (e, r) ← escape f r
    match e with
    | .literal c => return (literal f c, r)
    | .set s => return (.set s, r)
    | .look l => return (.look l, r)
  | '.' :: r => do return (← dot f, r)
  | '^' :: r => .ok (.look (if f.multiLine then .startLine f.crlf else .start), r)
  | '$' :: r => .ok (.look (if f.multiLine then .finishLine f.crlf else .finish), r)
  | c :: r => .ok (literal f c, r)

/-- The sequence of the parts, given latest first. A part that only sets flags is none. -/
def sequence (parts : List (Option Regex)) : Regex :=
  match parts.filterMap id with
  | [] => .empty
  | r :: l => l.foldl (fun s r => .seq r s) r

/-- Puts a repetition around the latest part. -/
def repeatLast (min : Nat) (max : Option Nat) (lazy : Bool) :
    List (Option Regex) → Except Problem (List (Option Regex))
  | some r :: l => .ok (some (.repeat r min max lazy) :: l)
  | _ => .error .missingOperand

mutual

/-- Reads branches up to a closing parenthesis, which it leaves, or the end of the text. -/
def alternation : (fuel : Nat) → Cursor → Except Problem (Regex × Cursor)
  | 0, _ => .error .tooDeep
  | n + 1, c => do
    let (r, c) ← branch n c []
    match c.rest with
    | '|' :: rest =>
      let (s, c) ← alternation n { c with rest := rest }
      return (.alt r s, c)
    | _ => return (r, c)

/-- Reads the parts of a branch after those read before, which come latest first. -/
def branch : (fuel : Nat) → Cursor → List (Option Regex) → Except Problem (Regex × Cursor)
  | 0, _, _ => .error .tooDeep
  | n + 1, c, parts =>
    let f := c.flags
    let go (parts : List (Option Regex)) (rest : List Char) := branch n { c with rest := rest } parts
    let again (min : Nat) (max : Option Nat) (rest : List Char) := do
      let (lazy, rest) := preference f rest
      go (← repeatLast min max lazy parts) rest
    match f.skip c.rest with
    | [] => .ok (sequence parts, { c with rest := [] })
    | '|' :: r => .ok (sequence parts, { c with rest := '|' :: r })
    | ')' :: r => .ok (sequence parts, { c with rest := ')' :: r })
    | '(' :: r => do
      match ← openGroup { c with rest := r } with
      | (.group number, inner) =>
        let (e, d) ← alternation n inner
        match d.rest with
        | ')' :: rest => branch n { d with flags := f, rest := rest } (some (.group number e) :: parts)
        | _ => throw .unclosedGroup
      | (.flags, inner) => branch n inner (none :: parts)
    | '[' :: r => do
      let (s, r) ← bracketClass f r
      go (some (.set s) :: parts) r
    | '?' :: r => again 0 (some 1) r
    | '*' :: r => again 0 none r
    | '+' :: r => again 1 none r
    | '\x7b' :: r => do
      let ((min, max), r) ← count f r
      again min max r
    | l => do
      let (e, r) ← primitive f l
      go (some e :: parts) r

end

/-- How deeply an expression may be nested. -/
def depthLimit : Nat := 250

/-- Reads a whole text as an expression. -/
def parse (f : Flags) (source : String) : Except Problem Regex := do
  let l := source.toList
  let (r, c) ← alternation (2 * l.length + 2) ⟨f, [], 0, l⟩
  if c.rest ≠ [] then throw .unopenedGroup
  if depthLimit < r.depth false false then throw .tooDeep
  return r

end Selenese.Regex
