import Selenese.Html.CharRef
import Selenese.Html.Doctype

/-!
# Selenese.Html.Token

The tokens of a page and how they are read.

* `Lexing` tells how the text that follows is read; the element that was opened last decides.
* `nextTokens` reads the next token, or the next characters, and answers what is left.
* A tag that the page breaks off is lost.
-/

namespace Selenese.Html

structure Tag where
  name : String
  attributes : List (String × String)
  selfClosing : Bool
deriving DecidableEq, Repr

def Tag.attribute? (t : Tag) (name : String) : Option String := t.attributes.lookup name

inductive Token where
  | char (c : Char)
  | opening (t : Tag)
  | closing (name : String)
  | comment
  | doctype (legacy : Bool)
  | finish
deriving DecidableEq, Repr

/-- Where the reading of a script stands. -/
inductive ScriptText where
  | plain
  /-- In a comment, after so many hyphens. -/
  | escaped (hyphens : Nat)
  /-- In a script that is in a comment, after so many hyphens. -/
  | doubled (hyphens : Nat)
deriving DecidableEq, Repr

/-- How text is read. -/
inductive Lexing where
  | data
  /-- Only references and the end of an element of this name are markup. -/
  | escapable (name : String)
  /-- Only the end of an element of this name is markup. -/
  | raw (name : String)
  | script (state : ScriptText)
  | cdata
  /-- Nothing is markup any more. -/
  | plaintext
deriving DecidableEq, Repr

/-- White space, between the parts of a tag and in text. -/
def isSpace (c : Char) : Bool := c == '\t' || c == '\n' || c == '\x0c' || c == '\x0d' || c == ' '

def cleanChar (c : Char) : Char := if c = '\x00' then replacement else c

/-- Names are read in lower case. -/
def nameOf (l : List Char) : String := String.ofList (l.map fun c => cleanChar c.toLower)

/-! ## Tags -/

/-- What a tag holds after its name, and what follows the tag. -/
structure TagBody where
  attributes : List (String × String)
  selfClosing : Bool
  rest : List Char

def isNameEnd (c : Char) : Bool := isSpace c || c == '/' || c == '>'

/-- Adds an attribute; the first of a name counts. -/
def addAttribute (name value : List Char) (seen : List (String × String)) : List (String × String) :=
  if (seen.lookup (nameOf name)).isSome then seen
  else seen ++ [(nameOf name, String.ofList (decodeValue value.length value))]

/-- A value between quotes. -/
def quotedValue? (quote : Char) (l : List Char) : Option (List Char × List Char) :=
  match l.dropWhile (· ≠ quote) with
  | [] => none
  | _ :: rest => some (l.takeWhile (· ≠ quote), rest)

/-- The value after an equals sign. -/
def value? (l : List Char) : Option (List Char × List Char) :=
  match l.dropWhile isSpace with
  | '"' :: r => quotedValue? '"' r
  | '\'' :: r => quotedValue? '\'' r
  | r => some (r.span fun c => !(isSpace c || c == '>'))

def tagBody? : (fuel : Nat) → (seen : List (String × String)) → List Char → Option TagBody
  | 0, _, _ => none
  | fuel + 1, seen, l =>
    match l.dropWhile isSpace with
    | [] => none
    | '>' :: r => some ⟨seen, false, r⟩
    | '/' :: '>' :: r => some ⟨seen, true, r⟩
    | '/' :: r => tagBody? fuel seen r
    | c :: r =>
      let (name, r) := r.span fun c => !(isNameEnd c || c == '=')
      match r.dropWhile isSpace with
      | '=' :: r => (value? r).bind fun (v, r) => tagBody? fuel (addAttribute (c :: name) v seen) r
      | r => tagBody? fuel (addAttribute (c :: name) [] seen) r

/-- A tag from its name on. -/
def tag? (l : List Char) : Option (String × TagBody) :=
  let (name, r) := l.span fun c => !isNameEnd c
  (tagBody? (r.length + 1) [] r).map (nameOf name, ·)

def opening (l : List Char) : List Token × List Char :=
  match tag? l with
  | some (name, b) => ([.opening ⟨name, b.attributes, b.selfClosing⟩], b.rest)
  | none => ([], [])

def closing (l : List Char) : List Token × List Char :=
  match tag? l with
  | some (name, b) => ([.closing name], b.rest)
  | none => ([], [])

/-! ## Comments and declarations -/

/-- What follows the end of a comment. -/
def afterComment : List Char → List Char
  | [] => []
  | '-' :: '-' :: '>' :: r => r
  | '-' :: '-' :: '!' :: '>' :: r => r
  | _ :: r => afterComment r

/-- What follows a comment, from its first character on; it may end at once. -/
def skipComment : List Char → List Char
  | '>' :: r => r
  | '-' :: '>' :: r => r
  | r => afterComment r

/-- What follows the next closing angle bracket. -/
def skipToClose (l : List Char) : List Char := (l.dropWhile (· ≠ '>')).drop 1

/-- What follows a word, in any case of its letters. -/
def afterWord? (word : String) (l : List Char) : Option (List Char) :=
  if (l.take word.length).map Char.toLower = word.toList then some (l.drop word.length) else none

/-- What `<!` begins. -/
def declaration (foreign : Bool) (l : List Char) : List Token × Lexing × List Char :=
  match l with
  | '-' :: '-' :: r => ([.comment], .data, skipComment r)
  | _ =>
    match afterWord? "doctype" l with
    | some r =>
      let (body, after) := r.span (· ≠ '>')
      ([.doctype (after.isEmpty || Doctype.isLegacy body)], .data, after.drop 1)
    | none =>
      match "[CDATA[".toList.isPrefixOf? l, foreign with
      | some r, true => ([], .cdata, r)
      | _, _ => ([.comment], .data, skipToClose l)

/-! ## Text -/

/-- Text with markup. -/
def dataTokens (foreign : Bool) : List Char → List Token × Lexing × List Char
  | [] => ([.finish], .data, [])
  | '&' :: r =>
    match reference? false r with
    | some (chars, rest) => (chars.map .char, .data, rest)
    | none => ([.char '&'], .data, r)
  | '<' :: '!' :: r => declaration foreign r
  | '<' :: '/' :: c :: r =>
    if c.isAlpha then
      let (tokens, rest) := closing (c :: r)
      (tokens, .data, rest)
    else if c = '>' then ([], .data, r)
    else ([.comment], .data, skipToClose (c :: r))
  | '<' :: '?' :: r => ([.comment], .data, skipToClose r)
  | '<' :: c :: r =>
    if c.isAlpha then
      let (tokens, rest) := opening (c :: r)
      (tokens, .data, rest)
    else ([.char '<'], .data, c :: r)
  | c :: r => ([.char c], .data, r)

/-- The end tag of an element, where `</` was read before. -/
def endOf? (name : String) (l : List Char) : Option (List Token × List Char) :=
  match afterWord? name l with
  | some (c :: _) => if isNameEnd c then some (closing l) else none
  | _ => none

/-- Text in which only the end of an element is markup, and references if they are read. -/
def textTokens (lexing : Lexing) (name : String) (references : Bool) :
    List Char → List Token × Lexing × List Char
  | [] => ([.finish], lexing, [])
  | '<' :: '/' :: r =>
    match endOf? name r with
    | some (tokens, rest) => (tokens, .data, rest)
    | none => ([.char '<'], lexing, '/' :: r)
  | '&' :: r =>
    match if references then reference? false r else none with
    | some (chars, rest) => (chars.map .char, lexing, rest)
    | none => ([.char '&'], lexing, r)
  | c :: r => ([.char (cleanChar c)], lexing, r)

/-- The characters of the word `script` and of what ends it. -/
def scriptWord? (l : List Char) : Option (List Char × List Char) :=
  match afterWord? "script" l with
  | some (c :: r) => if isNameEnd c then some (l.take 7, r) else none
  | _ => none

/-- The state after a hyphen, or after another character that ends no comment. -/
def ScriptText.after (s : ScriptText) (c : Char) : ScriptText :=
  match s with
  | plain => plain
  | escaped n => if c = '-' then escaped (n + 1) else if c = '>' ∧ 2 ≤ n then plain else escaped 0
  | doubled n => if c = '-' then doubled (n + 1) else if c = '>' ∧ 2 ≤ n then plain else doubled 0

def scriptTokens (s : ScriptText) : List Char → List Token × Lexing × List Char
  | [] => ([.finish], .script s, [])
  | l@(c :: r) =>
    let one := ([Token.char (cleanChar c)], Lexing.script (s.after c), r)
    if c ≠ '<' then one
    else
      match s, r with
      | .plain, '!' :: '-' :: '-' :: rest => ((l.take 4).map .char, .script (.escaped 2), rest)
      | .doubled _, '/' :: r =>
        match scriptWord? r with
        | some (word, rest) => ('<' :: '/' :: word |>.map .char, .script (.escaped 0), rest)
        | none => one
      | .doubled _, _ => one
      | _, '/' :: r =>
        match endOf? "script" r with
        | some (tokens, rest) => (tokens, .data, rest)
        | none => one
      | .plain, _ => one
      | .escaped _, r =>
        match scriptWord? r with
        | some (word, rest) => ('<' :: word |>.map .char, .script (.doubled 0), rest)
        | none => one

def cdataTokens : List Char → List Token × Lexing × List Char
  | [] => ([.finish], .cdata, [])
  | ']' :: ']' :: '>' :: r => ([], .data, r)
  | c :: r => ([.char c], .cdata, r)

/-- Reads on: the next tokens, how to go on, and what is left. The end of the page is a token too. -/
def nextTokens (foreign : Bool) (l : List Char) : Lexing → List Token × Lexing × List Char
  | .data => dataTokens foreign l
  | .escapable name => textTokens (.escapable name) name true l
  | .raw name => textTokens (.raw name) name false l
  | .script s => scriptTokens s l
  | .cdata => cdataTokens l
  | .plaintext =>
    match l with
    | [] => ([.finish], .plaintext, [])
    | c :: r => ([.char (cleanChar c)], .plaintext, r)

/-- Line ends as single line feeds, without a byte order mark at the beginning. -/
def normalize (s : String) : List Char :=
  match s.toList with
  | '\ufeff' :: r => lines r
  | l => lines l
where
  lines : List Char → List Char
    | [] => []
    | '\x0d' :: '\n' :: r => '\n' :: lines r
    | '\x0d' :: r => '\n' :: lines r
    | c :: r => c :: lines r

end Selenese.Html
