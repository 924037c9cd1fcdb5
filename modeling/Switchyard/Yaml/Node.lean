import Switchyard.Yaml.Lexer

/-!
# Nodes

Reads the tokens of one document into a tree. A node that carries an anchor can be referred to; references
keep the number of the anchor, and a table tells the node behind each number. Any fault ends the reading.
-/

namespace Switchyard.Yaml

/-- What a node is besides its place and its tag. -/
inductive Node where
  | scalar (mark : Mark) (tag : Option String) (text : String) (plain : Bool)
  | sequence (mark : Mark) (tag : Option String) (items : List Node)
  | mapping (mark : Mark) (tag : Option String) (entries : List (Node × Node))
  /-- A reference to the node of an anchor. -/
  | alias (id : Nat)

/-- A node with an anchor, and how much of the document stands in front of it. -/
structure Anchored where
  id : Nat
  position : Nat
  node : Node

/-- A document. -/
structure Document where
  /-- Nothing, if the text holds no document. -/
  root : Option Node
  anchored : List Anchored
  /-- How many places a walk through the document passes. -/
  size : Nat

/-- The node behind a number: of several, the last one. -/
def Document.target? (d : Document) (id : Nat) : Option Node :=
  let found := d.anchored.foldl (fun best a =>
    if a.id ≠ id then best
    else match best with
      | some b => if b.position < a.position then some a else some b
      | none => some a) (none : Option Anchored)
  found.map (·.node)

/-! ## Reading -/

/-- What a reader of nodes keeps. -/
structure Reading where
  tokens : List Token
  /-- The numbers of the anchors seen so far. -/
  names : List (String × Nat) := []
  anchored : List Anchored := []
  position : Nat := 0

/-- A reader over tokens that may fail. -/
abbrev Reads := StateT Reading Option

namespace Reads

/-- The kind of the next token. -/
def peek : Reads (Option TokenKind) := do return (← get).tokens.head?.map (·.kind)

/-- The place of the next token. -/
def mark : Reads Mark := do return ((← get).tokens.head?.map (·.mark)).getD ⟨0, 0⟩

/-- Leaves the next token behind. -/
def skip : Reads Unit := modify fun r => { r with tokens := r.tokens.drop 1 }

/-- Leaves the next token behind if it is of a kind. -/
def take (kind : TokenKind) : Reads Bool := do
  if (← peek) = some kind then skip; return true else return false

/-- Leaves the next token behind; it has to be of a kind. -/
def expect (kind : TokenKind) : Reads Unit := do
  if !(← take kind) then failure

/-- Whether the next token is of one of some kinds. -/
def sees (kinds : List TokenKind) : Reads Bool := do
  return (← peek).any kinds.contains

/-- Counts a place of the document. -/
def advance : Reads Unit := modify fun r => { r with position := r.position + 1 }

/-- An empty plain scalar. -/
def empty : Reads Node := do
  let m ← mark
  advance
  return .scalar m none "" true

end Reads

/-- What handles of tags stand for. -/
abbrev Handles := List (String × String)

/-- The handles that every document has. -/
def defaultHandles : Handles := [("!", "!"), ("!!", "tag:yaml.org,2002:")]

/-- The anchor and the tag in front of a node. -/
structure Properties where
  mark : Mark
  anchor : Option String := none
  tag : Option String := none

namespace Reads

/-- Reads an anchor if there is one. -/
def anchor : Reads (Option String) := do
  match ← peek with
  | some (.anchor name) => skip; return some name
  | _ => return none

/-- Reads a tag if there is one; its handle has to be known. -/
def tag (handles : Handles) : Reads (Option String) := do
  match ← peek with
  | some (.tag handle suffix) =>
    skip
    if handle.isEmpty then return some suffix
    else
      match handles.lookup handle with
      | some expansion => return some (expansion ++ suffix)
      | none => failure
  | _ => return none

/-- Reads an anchor and a tag in either order. -/
def properties (handles : Handles) : Reads Properties := do
  let m ← mark
  match ← anchor with
  | some name => return { mark := m, anchor := some name, tag := ← tag handles }
  | none =>
    match ← tag handles with
    | some t => return { mark := m, anchor := ← anchor, tag := some t }
    | none => return { mark := m }

/-- Gives an anchor its number, and keeps the node that `body` reads under that number. -/
def anchoring (anchor : Option String) (body : Reads Node) : Reads Node := do
  let r ← get
  match anchor with
  | none => body
  | some name =>
    let id := r.names.length
    let names := if (r.names.lookup name).isSome then r.names.map fun (n, i) => (n, if n == name then id else i)
      else (name, id) :: r.names
    set { r with names := names }
    let node ← body
    modify fun s => { s with anchored := ⟨id, r.position, node⟩ :: s.anchored }
    return node

/-- Reads items up to the end of a collection that counts as a place at both of its ends. -/
def collection (items : Reads α) : Reads α := do
  advance
  let read ← items
  advance
  return read

mutual

/-- Reads a node; `block` allows for blocks, and `indentless` for a sequence that is not indented further. -/
def node (handles : Handles) (block indentless : Bool) : (fuel : Nat) → Reads Node
  | 0 => failure
  | fuel + 1 => do
    match ← peek with
    | some (.alias name) =>
      skip
      advance
      match (← get).names.lookup name with
      | some id => return .alias id
      | none => failure
    | _ =>
      let p ← properties handles
      anchoring p.anchor (content handles block indentless p fuel)

/-- Reads a node after its properties. -/
def content (handles : Handles) (block indentless : Bool) (p : Properties) : (fuel : Nat) → Reads Node
  | 0 => failure
  | fuel + 1 => do
    match ← peek with
    | some (.scalar text plain) =>
      skip
      advance
      return .scalar p.mark (if p.tag = some "!" then none else p.tag) text plain
    | some .flowSequence => skip; return .sequence p.mark p.tag (← collection (flowItems handles true fuel))
    | some .flowMapping => skip; return .mapping p.mark p.tag (← collection (flowEntries handles true fuel))
    | other =>
      if indentless && other = some .blockEntry then
        return .sequence p.mark p.tag (← collection (blockItems handles true fuel))
      else if block && other = some .blockSequence then
        skip
        return .sequence p.mark p.tag (← collection (blockItems handles false fuel))
      else if block && other = some .blockMapping then
        skip
        return .mapping p.mark p.tag (← collection (blockEntries handles fuel))
      else if p.anchor.isSome || p.tag.isSome then
        advance
        return .scalar p.mark p.tag "" true
      else failure

/-- Reads the items of a sequence without brackets. -/
def blockItems (handles : Handles) (indentless : Bool) : (fuel : Nat) → Reads (List Node)
  | 0 => failure
  | fuel + 1 => do
    if ← take .blockEntry then
      let ends := if indentless then [.blockEntry, .key, .value, .blockEnd] else [.blockEntry, .blockEnd]
      let item ← if ← sees ends then empty else node handles true false fuel
      return item :: (← blockItems handles indentless fuel)
    else if indentless then return []
    else
      expect .blockEnd
      return []

/-- Reads the entries of a mapping without brackets. -/
def blockEntries (handles : Handles) : (fuel : Nat) → Reads (List (Node × Node))
  | 0 => failure
  | fuel + 1 => do
    if ← take .key then
      let k ← blockPart handles fuel
      let v ← if ← take .value then blockPart handles fuel else empty
      return (k, v) :: (← blockEntries handles fuel)
    else
      expect .blockEnd
      return []

/-- Reads a key or a value of a mapping without brackets. -/
def blockPart (handles : Handles) : (fuel : Nat) → Reads Node
  | 0 => failure
  | fuel + 1 => do
    if ← sees [.key, .value, .blockEnd] then empty else node handles true true fuel

/-- Reads the items of a sequence in brackets; all but the first are led by a comma. -/
def flowItems (handles : Handles) (first : Bool) : (fuel : Nat) → Reads (List Node)
  | 0 => failure
  | fuel + 1 => do
    if ← take .flowSequenceEnd then return []
    else
      if !first then expect .flowEntry
      if ← take .flowSequenceEnd then return []
      else
        let item ← if (← peek) = some .key then flowPair handles fuel else node handles false false fuel
        return item :: (← flowItems handles false fuel)

/-- Reads a mapping of one entry among the items of a sequence. Where the key is missing, the token after it
is passed over. -/
def flowPair (handles : Handles) : (fuel : Nat) → Reads Node
  | 0 => failure
  | fuel + 1 => do
    let m ← mark
    skip
    let entry ← collection do
      let k ←
        if ← sees [.value, .flowEntry, .flowSequenceEnd] then
          skip
          empty
        else node handles false false fuel
      let v ←
        if ← take .value then
          if ← sees [.flowEntry, .flowSequenceEnd] then empty else node handles false false fuel
        else empty
      return (k, v)
    return .mapping m none [entry]

/-- Reads the entries of a mapping in brackets; all but the first are led by a comma. -/
def flowEntries (handles : Handles) (first : Bool) : (fuel : Nat) → Reads (List (Node × Node))
  | 0 => failure
  | fuel + 1 => do
    if ← take .flowMappingEnd then return []
    else
      if !first then expect .flowEntry
      if ← take .flowMappingEnd then return []
      else
        let ends := [.value, .flowEntry, .flowMappingEnd]
        let entry ←
          if ← take .key then
            let k ← if ← sees ends then empty else node handles false false fuel
            let v ←
              if ← take .value then
                if ← sees [.flowEntry, .flowMappingEnd] then empty else node handles false false fuel
              else empty
            pure (k, v)
          else
            let k ← node handles false false fuel
            pure (k, ← empty)
        return entry :: (← flowEntries handles false fuel)

end

/-! ## Documents -/

/-- Reads the directives in front of a document into the handles that they add. -/
def directives : (fuel : Nat) → (versioned : Bool) → Handles → Reads Handles
  | 0, _, _ => failure
  | fuel + 1, versioned, handles => do
    match ← peek with
    | some (.version major minor) =>
      if versioned || major ≠ 1 || (minor ≠ 1 && minor ≠ 2) then failure
      else
        skip
        directives fuel true handles
    | some (.handle name expansion) =>
      if (handles.lookup name).isSome then failure
      else
        skip
        directives fuel versioned (handles ++ [(name, expansion)])
    | _ => return handles

/-- Reads the first document, which starts without a mark unless directives stand in front of it. -/
def root (fuel : Nat) : Reads (Option Node) := do
  match ← peek with
  | none => return none
  | some (.version ..) | some (.handle ..) | some .documentStart =>
    let handles := (← directives fuel false []) ++ defaultHandles
    expect .documentStart
    match ← peek with
    | none | some (.version ..) | some (.handle ..) | some .documentStart | some .documentEnd =>
      return some (← empty)
    | some _ => return some (← node handles true false fuel)
  | some _ => return some (← node defaultHandles true false fuel)

/-- Leaves the marks of the end of a document behind; nothing may follow them. -/
def finish : (fuel : Nat) → Reads Unit
  | 0 => failure
  | fuel + 1 => do
    if ← take .documentEnd then finish fuel
    else if (← peek).isSome then failure

end Reads

/-- Reads a text of one document. -/
def document? (s : String) : Option Document := do
  let tokens ← tokens? s.toList
  let fuel := 4 * tokens.length + 8
  let (root, r) ← (do
    let root ← Reads.root fuel
    Reads.finish fuel
    return root : Reads (Option Node)) { tokens := tokens }
  return ⟨root, r.anchored, r.position⟩

end Switchyard.Yaml
