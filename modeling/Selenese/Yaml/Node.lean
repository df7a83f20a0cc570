import Selenese.Yaml.Scanner

/-!
# Selenese.Yaml.Node

The values of a YAML document.

* `Document.parse` reads the one document of a text; a text without any has none.
* An alias refers to an anchored node by number. A name that is anchored again gets the next number, and of the nodes
  of a number the last one counts.
-/

namespace Selenese.Yaml

inductive Node where
  | scalar (tag : Option String) (plain : Bool) (text : String)
  | sequence (items : List Node)
  | mapping (entries : List (Node × Node))
  | alias (number : Nat)

namespace Node

/-- A node that is left out. -/
def nothing : Node := .scalar none true ""

end Node

/-- An anchored node, with its number and its place in the order of the anchors. -/
structure Anchored where
  number : Nat
  place : Nat
  node : Node

structure Document where
  root : Node
  anchored : List Anchored

/-- The reading of a document. -/
structure Reading where
  tokens : List Token
  handles : List (String × String)
  names : List (String × Nat)
  anchors : Nat
  anchored : List Anchored

abbrev Reader := EStateM Problem Reading

namespace Reader

def peek : Reader (Option Token) := return (← get).tokens.head?

def advance : Reader Unit := modify fun r => { r with tokens := r.tokens.drop 1 }

/-- What stands before a node. -/
structure Properties where
  anchor : Option String
  tag : Option (String × String)

def anchor? : Reader (Option String) := do
  match ← peek with
  | some (.anchor n) => advance; return some n
  | _ => return none

def tag? : Reader (Option (String × String)) := do
  match ← peek with
  | some (.tag handle rest) => advance; return some (handle, rest)
  | _ => return none

/-- An anchor and a tag, in either order. -/
def properties : Reader Properties := do
  match ← anchor? with
  | some a => return ⟨some a, ← tag?⟩
  | none =>
    match ← tag? with
    | some t => return ⟨← anchor?, some t⟩
    | none => return ⟨none, none⟩

/-- The full text of a tag. -/
def fullTag (tag : Option (String × String)) : Reader (Option String) := do
  match tag with
  | none => return none
  | some ("", rest) => return some rest
  | some (handle, rest) =>
    match (← get).handles.lookup handle with
    | some start => return some (start ++ rest)
    | none => throw .tag

/-- Notes a name: its number and its place. -/
def note (name : Option String) : Reader (Option (Nat × Nat)) := do
  match name with
  | none => return none
  | some n =>
    let r ← get
    let number := r.names.length
    let others := r.names.filter fun e => e.1 ≠ n
    set { r with names := others ++ [(n, number)], anchors := r.anchors + 1 }
    return some (number, r.anchors)

/-- Notes the node that a name stands for. -/
def keep (slot : Option (Nat × Nat)) (node : Node) : Reader Node := do
  match slot with
  | none => return node
  | some (number, place) =>
    modify fun r => { r with anchored := ⟨number, place, node⟩ :: r.anchored }
    return node

/-- The kinds of places that a node stands in. -/
inductive Place where
  /-- In a flow collection: no block begins here. -/
  | flow
  | block
  /-- In a block mapping: a sequence needs no deeper indentation. -/
  | field
deriving DecidableEq

/-- Tokens that stand where a node is left out. -/
def ends (tokens : List Token) (t : Option Token) : Bool := t.any tokens.contains

mutual

def node : (fuel : Nat) → Place → Reader Node
  | 0, _ => throw .misplaced
  | fuel + 1, place => do
    match ← peek with
    | some (.alias n) =>
      advance
      match (← get).names.lookup n with
      | some number => return .alias number
      | none => throw .unknownAlias
    | _ =>
      let p ← properties
      let tag ← fullTag p.tag
      let tag := if tag = some "!" then none else tag
      match ← peek with
      | some (.scalar text plain) =>
        advance
        keep (← note p.anchor) (.scalar tag plain text)
      | some .flowSequence =>
        advance
        let slot ← note p.anchor
        keep slot (.sequence (← flowItems fuel true))
      | some .flowMapping =>
        advance
        let slot ← note p.anchor
        keep slot (.mapping (← flowEntries fuel true))
      | t =>
        if place = .field ∧ t = some .blockEntry then
          let slot ← note p.anchor
          keep slot (.sequence (← looseItems fuel))
        else if place ≠ .flow ∧ t = some .blockSequence then
          advance
          let slot ← note p.anchor
          keep slot (.sequence (← blockItems fuel))
        else if place ≠ .flow ∧ t = some .blockMapping then
          advance
          let slot ← note p.anchor
          keep slot (.mapping (← blockEntries fuel))
        else if p.anchor.isSome ∨ p.tag.isSome then
          keep (← note p.anchor) (.scalar tag true "")
        else throw .misplaced

/-- A node, or nothing before some tokens. -/
def nodeUnless (tokens : List Token) : (fuel : Nat) → Place → Reader Node
  | 0, _ => throw .misplaced
  | fuel + 1, place => do
    if ends tokens (← peek) then return .nothing else node fuel place

/-- The items of a block sequence. -/
def blockItems : (fuel : Nat) → Reader (List Node)
  | 0 => throw .misplaced
  | fuel + 1 => do
    match ← peek with
    | some .blockEntry =>
      advance
      let n ← nodeUnless [.blockEntry, .blockEnd] fuel .block
      return n :: (← blockItems fuel)
    | some .blockEnd => advance; return []
    | _ => throw .misplaced

/-- The items of a sequence that is no deeper indented than the key before it. -/
def looseItems : (fuel : Nat) → Reader (List Node)
  | 0 => throw .misplaced
  | fuel + 1 => do
    match ← peek with
    | some .blockEntry =>
      advance
      let n ← nodeUnless [.blockEntry, .key, .value, .blockEnd] fuel .block
      return n :: (← looseItems fuel)
    | _ => return []

/-- The value after a key in a block mapping. -/
def blockValue : (fuel : Nat) → Reader Node
  | 0 => throw .misplaced
  | fuel + 1 => do
    match ← peek with
    | some .value => advance; nodeUnless [.key, .value, .blockEnd] fuel .field
    | _ => return .nothing

def blockEntries : (fuel : Nat) → Reader (List (Node × Node))
  | 0 => throw .misplaced
  | fuel + 1 => do
    match ← peek with
    | some .key =>
      advance
      let k ← nodeUnless [.key, .value, .blockEnd] fuel .field
      let v ← blockValue fuel
      return (k, v) :: (← blockEntries fuel)
    | some .blockEnd => advance; return []
    | _ => throw .misplaced

/-- The value after a key in a flow collection. -/
def flowValue (closing : Token) : (fuel : Nat) → Reader Node
  | 0 => throw .misplaced
  | fuel + 1 => do
    match ← peek with
    | some .value => advance; nodeUnless [.flowEntry, closing] fuel .flow
    | _ => return .nothing

/-- A pair of a key and a value that is an item of a flow sequence. A key that is left out takes the token after it
along. -/
def flowPair : (fuel : Nat) → Reader Node
  | 0 => throw .misplaced
  | fuel + 1 => do
    if ends [.value, .flowEntry, .flowSequenceEnd] (← peek) then
      advance
      return .mapping [(.nothing, ← flowValue .flowSequenceEnd fuel)]
    else
      let k ← node fuel .flow
      return .mapping [(k, ← flowValue .flowSequenceEnd fuel)]

def flowItems : (fuel : Nat) → (first : Bool) → Reader (List Node)
  | 0, _ => throw .misplaced
  | fuel + 1, first => do
    if (← peek) = some .flowSequenceEnd then
      advance
      return []
    if !first then
      if (← peek) ≠ some .flowEntry then throw .misplaced
      advance
    match ← peek with
    | some .flowSequenceEnd => advance; return []
    | some .key =>
      advance
      let n ← flowPair fuel
      return n :: (← flowItems fuel false)
    | _ =>
      let n ← node fuel .flow
      return n :: (← flowItems fuel false)

def flowEntries : (fuel : Nat) → (first : Bool) → Reader (List (Node × Node))
  | 0, _ => throw .misplaced
  | fuel + 1, first => do
    if (← peek) = some .flowMappingEnd then
      advance
      return []
    if !first then
      if (← peek) ≠ some .flowEntry then throw .misplaced
      advance
    match ← peek with
    | some .flowMappingEnd => advance; return []
    | some .key =>
      advance
      let k ← nodeUnless [.value, .flowEntry, .flowMappingEnd] fuel .flow
      let v ← flowValue .flowMappingEnd fuel
      return (k, v) :: (← flowEntries fuel false)
    | _ =>
      let k ← node fuel .flow
      return (k, .nothing) :: (← flowEntries fuel false)

end

/-! ## Documents -/

def standardHandles : List (String × String) := [("!", "!"), ("!!", "tag:yaml.org,2002:")]

/-- The directives before a document: one version at most, and every handle once. -/
def directives : (fuel : Nat) → (version : Bool) → Reader Unit
  | 0, _ => throw .directive
  | fuel + 1, version => do
    match ← peek with
    | some (.version major minor) =>
      if version ∨ major ≠ 1 ∨ (minor ≠ 1 ∧ minor ≠ 2) then throw .directive
      advance
      directives fuel true
    | some (.tagHandle handle start) =>
      if ((← get).handles.lookup handle).isSome then throw .directive
      modify fun r => { r with handles := r.handles ++ [(handle, start)] }
      advance
      directives fuel version
    | _ => modify fun r => { r with handles := r.handles ++ standardHandles }

def isDirective : Token → Bool
  | .version .. | .tagHandle .. => true
  | _ => false

/-- The content of a document that was begun by a mark. -/
def markedContent (fuel : Nat) : Reader Node := do
  match ← peek with
  | none => return .nothing
  | some t =>
    if isDirective t ∨ t = .documentStart ∨ t = .documentEnd then return .nothing else node fuel .block

def skipEnds : (fuel : Nat) → Reader Unit
  | 0 => return
  | fuel + 1 => do
    if (← peek) = some .documentEnd then
      advance
      skipEnds fuel

/-- The only document of a text, if there is one. -/
def document (fuel : Nat) : Reader (Option Document) := do
  match ← peek with
  | none => return none
  | some t =>
    let root ←
      if isDirective t ∨ t = .documentStart then do
        directives fuel false
        if (← peek) ≠ some .documentStart then throw .misplaced
        advance
        markedContent fuel
      else do
        modify fun r => { r with handles := standardHandles }
        node fuel .block
    skipEnds fuel
    if (← peek).isSome then throw .secondDocument
    return some ⟨root, (← get).anchored⟩

end Reader

namespace Document

def parse (source : String) : Except Problem (Option Document) :=
  match tokens source with
  | .error p => .error p
  | .ok ts =>
    match Reader.document (4 * ts.length + 8) ⟨ts, [], [], 0, []⟩ with
    | .ok d _ => .ok d
    | .error p _ => .error p

/-- The node that an alias refers to; any other node stands for itself. -/
def resolve (d : Document) (n : Node) : Node :=
  match n with
  | .alias number =>
    let candidates := d.anchored.filter fun a => a.number = number
    let best := candidates.foldl (fun best a =>
      match best with
      | some b => if Anchored.place b < a.place then some a else best
      | none => some a) (none : Option Anchored)
    (best.map Anchored.node).getD .nothing
  | n => n

end Document

end Selenese.Yaml
