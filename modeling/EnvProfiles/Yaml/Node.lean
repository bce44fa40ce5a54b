import EnvProfiles.Yaml.Token

/-!
# From Tokens to Nodes

The structure of a YAML text: a tree of scalars, sequences and mappings, in
which an alias stands for the node that its anchor names. A text holds one
document at most, and one without a document is read as an empty scalar.

An anchor is given a number when it is met, namely how many different names
have been met before it, and an alias refers to a number. A name that is used
again therefore shares its number with the next new name, and of several nodes
with one number an alias stands for the last.

## Main definitions

* `Tag`: What a tag says about the node it stands before.
* `Node`: A scalar, a sequence, a mapping or an alias.
* `Node.ofTokens?`: The document of a text, given its tokens.
* `Node.size`: How much of a document a node makes up.
-/

namespace EnvProfiles.Yaml

/-- What a tag says about the node it stands before. -/
inductive Tag where
  /-- Nothing: there is no tag. -/
  | untagged
  /-- The value belongs to an application and has the given name. -/
  | named (name : String)
  | bool
  | int
  | float
  | null
  /-- The value belongs to an application whose name cannot be read. -/
  | unreadable
  /-- The tag is none of those. -/
  | other
deriving DecidableEq, Repr

/-- What the full text of a tag says. -/
def Tag.ofLabel (label : Label) : Tag :=
  match label.mapM id with
  | none => if label.head? == some (some '!') then .unreadable else .other
  | some chars =>
    let text := String.ofList chars
    if chars.head? == some '!' then .named (bareTag text)
    else if text == "tag:yaml.org,2002:bool" then .bool
    else if text == "tag:yaml.org,2002:int" then .int
    else if text == "tag:yaml.org,2002:float" then .float
    else if text == "tag:yaml.org,2002:null" then .null
    else .other

/-- A node of the tree, with the number of its anchor. -/
inductive Node where
  | reference (number : Nat)
  | scalar (anchor : Option Nat) (tag : Tag) (text : List Char) (plain : Bool)
  | sequence (anchor : Option Nat) (tag : Tag) (items : List Node)
  | mapping (anchor : Option Nat) (tag : Tag) (entries : List (Node × Node))

namespace Node

/-- A scalar that is not written at all. -/
def blank : Node := .scalar none .untagged [] true

/-- The number of a node's anchor. -/
def anchor : Node → Option Nat
  | reference _ => none
  | scalar a _ _ _ => a
  | sequence a _ _ => a
  | mapping a _ _ => a

mutual

/-- How much of a document a node makes up: two for a collection, one for any other node. -/
def size : Node → Nat
  | reference _ => 1
  | scalar _ _ _ _ => 1
  | sequence _ _ items => 2 + sizeItems items
  | mapping _ _ entries => 2 + sizeEntries entries

/-- How much of a document the items of a sequence make up. -/
def sizeItems : List Node → Nat
  | [] => 0
  | node :: r => size node + sizeItems r

/-- How much of a document the keys and values of a mapping make up. -/
def sizeEntries : List (Node × Node) → Nat
  | [] => 0
  | (key, value) :: r => size key + size value + sizeEntries r

end

/-- A node with the number of its anchor. -/
def here (node : Node) : List (Nat × Node) :=
  match node.anchor with
  | some n => [(n, node)]
  | none => []

mutual

/-- The anchored nodes of a document with their numbers, a node before the nodes within it. -/
def anchored : Node → List (Nat × Node)
  | reference _ => []
  | scalar a t x p => (scalar a t x p).here
  | sequence a t items => (sequence a t items).here ++ anchoredItems items
  | mapping a t entries => (mapping a t entries).here ++ anchoredEntries entries

/-- The anchored nodes among the items of a sequence and within them. -/
def anchoredItems : List Node → List (Nat × Node)
  | [] => []
  | node :: r => anchored node ++ anchoredItems r

/-- The anchored nodes among the keys and values of a mapping and within them. -/
def anchoredEntries : List (Node × Node) → List (Nat × Node)
  | [] => []
  | (key, value) :: r => anchored key ++ anchored value ++ anchoredEntries r

end

end Node

/-- The tokens that are left, the handles that were declared, and the numbers of the names that
anchors have had so far. -/
structure Parse where
  tokens : List Token
  handles : List (List Char × Label)
  numbers : List (List Char × Nat)

namespace Parse

/-- Passes a token. -/
def drop (p : Parse) : Parse := { p with tokens := p.tokens.tail }

/-- Whether one of the given tokens comes next, or none is left. -/
def stops (p : Parse) (ends : List Token) : Bool :=
  match p.tokens with
  | t :: _ => ends.contains t
  | [] => false

/-- Whether a token comes next. -/
def sees (p : Parse) (t : Token) : Bool := p.tokens.head? == some t

/-- Gives the name of an anchor a number. -/
def number (p : Parse) (name : List Char) : Nat × Parse :=
  let n := p.numbers.length
  -- The list does not grow when a name is used again, so the next new name takes the same number.
  let numbers :=
    if (p.numbers.lookup name).isSome then
      p.numbers.map fun e => if e.1 == name then (name, n) else e
    else (name, n) :: p.numbers
  (n, { p with numbers := numbers })

/-- The full tag that a handle and a suffix stand for. -/
def tag? (p : Parse) (handle : List Char) (suffix : Label) : Option Tag :=
  if handle.isEmpty then some (.ofLabel suffix)
  else (p.handles.lookup handle).map fun meaning => .ofLabel (meaning ++ suffix)

/-- An anchor, if one comes next. -/
def anchor (p : Parse) : Option (List Char) × Parse :=
  match p.tokens with
  | .anchor name :: _ => (some name, p.drop)
  | _ => (none, p)

/-- A tag, if one comes next; it is an error if its handle was not declared. -/
def tag (p : Parse) : Option (Tag × Parse) :=
  match p.tokens with
  | .tag handle suffix :: _ => (p.tag? handle suffix).map fun t => (t, p.drop)
  | _ => some (.untagged, p)

/-- The anchor and the tag before a node, in either order. -/
def properties (p : Parse) : Option (Option Nat × Tag × Parse) := do
  let (first, p) := p.anchor
  let (tag, p) ← p.tag
  let (second, p) := if first.isNone then p.anchor else (none, p)
  match first.or second with
  | some name =>
    let (n, p) := p.number name
    return (some n, tag, p)
  | none => return (none, tag, p)

end Parse

/-- Where a node stands decides which collections it may be. -/
inductive Place where
  /-- An item of a block. -/
  | block
  /-- A key or a value of a block, which may be a sequence that is not indented. -/
  | entry
  /-- Within brackets. -/
  | flow
deriving DecidableEq

mutual

/-- Reads a node. -/
def node? (place : Place) : Nat → Parse → Option (Node × Parse)
  | 0, _ => none
  | n + 1, p =>
    match p.tokens with
    | .reference name :: _ => (p.numbers.lookup name).map fun number => (.reference number, p.drop)
    | _ => do
      let (anchor, tag, p) ← p.properties
      match p.tokens with
      | .scalar text plain :: _ => return (.scalar anchor tag text plain, p.drop)
      | .flowSequenceStart :: _ =>
        let (items, p) ← flowItems? n true p.drop
        return (.sequence anchor tag items, p)
      | .flowMappingStart :: _ =>
        let (entries, p) ← flowEntries? n true p.drop
        return (.mapping anchor tag entries, p)
      | t :: _ =>
        -- Such a sequence stands in the column of its key, and no token opens it.
        if place == .entry && t == .blockEntry then
          let (items, p) ← openItems? n p
          return (.sequence anchor tag items, p)
        else if place != .flow && t == .blockSequenceStart then
          let (items, p) ← blockItems? n p.drop
          return (.sequence anchor tag items, p)
        else if place != .flow && t == .blockMappingStart then
          let (entries, p) ← blockEntries? n p.drop
          return (.mapping anchor tag entries, p)
        else if anchor.isSome || tag != .untagged then
          return (.scalar anchor tag [] true, p)
        else none
      | [] =>
        if anchor.isSome || tag != .untagged then return (.scalar anchor tag [] true, p) else none

/-- Reads a node unless one of the given tokens comes next, in whose place nothing is written. -/
def nodeUnless? (ends : List Token) (place : Place) : Nat → Parse → Option (Node × Parse)
  | 0, _ => none
  | n + 1, p => if p.stops ends then some (.blank, p) else node? place n p

/-- Reads the items of a block up to its end. -/
def blockItems? : Nat → Parse → Option (List Node × Parse)
  | 0, _ => none
  | n + 1, p =>
    if p.sees .blockEntry then do
      let (item, p) ← nodeUnless? [.blockEntry, .blockEnd] .block n p.drop
      let (items, p) ← blockItems? n p
      return (item :: items, p)
    else if p.sees .blockEnd then some ([], p.drop)
    else none

/-- Reads the items of a sequence that is not indented and has no end of its own. -/
def openItems? : Nat → Parse → Option (List Node × Parse)
  | 0, _ => none
  | n + 1, p =>
    if p.sees .blockEntry then do
      let (item, p) ← nodeUnless? [.blockEntry, .key, .value, .blockEnd] .block n p.drop
      let (items, p) ← openItems? n p
      return (item :: items, p)
    else some ([], p)

/-- Reads the keys and values of a block up to its end. -/
def blockEntries? : Nat → Parse → Option (List (Node × Node) × Parse)
  | 0, _ => none
  | n + 1, p =>
    if p.sees .key then do
      let (key, p) ← nodeUnless? [.key, .value, .blockEnd] .entry n p.drop
      let (value, p) ←
        if p.sees .value then nodeUnless? [.key, .value, .blockEnd] .entry n p.drop
        else some (.blank, p)
      let (entries, p) ← blockEntries? n p
      return ((key, value) :: entries, p)
    else if p.sees .blockEnd then some ([], p.drop)
    else none

/-- Reads the items between square brackets. An item may be a single key with its value; a key
that is not written must not be marked either. -/
def flowItems? : Nat → Bool → Parse → Option (List Node × Parse)
  | 0, _, _ => none
  | n + 1, first, p =>
    if p.sees .flowSequenceEnd then some ([], p.drop)
    else if !first && !p.sees .flowEntry then none
    else do
      let p := if first then p else p.drop
      if p.sees .flowSequenceEnd then return ([], p.drop)
      else
        let (item, p) ← if p.sees .key then flowPair? n p.drop else node? .flow n p
        let (items, p) ← flowItems? n false p
        return (item :: items, p)

/-- Reads a single key with its value between square brackets. -/
def flowPair? : Nat → Parse → Option (Node × Parse)
  | 0, _ => none
  | n + 1, p => do
    let (key, p) ←
      -- A key that is not written takes the token in its place with it.
      if p.stops [.value, .flowEntry, .flowSequenceEnd] then some (.blank, p.drop)
      else node? .flow n p
    let (value, p) ←
      if p.sees .value then nodeUnless? [.flowEntry, .flowSequenceEnd] .flow n p.drop
      else some (.blank, p)
    return (.mapping none .untagged [(key, value)], p)

/-- Reads the keys and values between curly brackets. -/
def flowEntries? : Nat → Bool → Parse → Option (List (Node × Node) × Parse)
  | 0, _, _ => none
  | n + 1, first, p =>
    if p.sees .flowMappingEnd then some ([], p.drop)
    else if !first && !p.sees .flowEntry then none
    else do
      let p := if first then p else p.drop
      if p.sees .flowMappingEnd then return ([], p.drop)
      else
        -- A colon has put a mark before its key, so a key without a mark has no value.
        let marked := p.sees .key
        let (key, p) ←
          if marked then nodeUnless? [.value, .flowEntry, .flowMappingEnd] .flow n p.drop
          else node? .flow n p
        let (value, p) ←
          if marked && p.sees .value then nodeUnless? [.flowEntry, .flowMappingEnd] .flow n p.drop
          else some (.blank, p)
        let (entries, p) ← flowEntries? n false p
        return ((key, value) :: entries, p)

end

/-- What the handles mean that need no declaration. -/
def standardHandles : List (List Char × Label) :=
  [(['!'], [some '!']), (['!', '!'], "tag:yaml.org,2002:".toList.map some)]

/-- Reads the directives before a document. The version may be given once, as 1.1 or 1.2, and the
meaning of a handle once. -/
def directives? : Bool → Parse → List Token → Option Parse
  | versioned, p, .version major minor :: r =>
    if versioned || major != 1 || !(minor == 1 || minor == 2) then none
    else directives? true { p with tokens := r } r
  | versioned, p, .handle name meaning :: r =>
    if (p.handles.lookup name).isSome then none
    else directives? versioned { p with tokens := r, handles := (name, meaning) :: p.handles } r
  | _, p, _ => some p

/-- Whether a token begins a directive. -/
def isDirective : Token → Bool
  | .version _ _ => true
  | .handle _ _ => true
  | _ => false

/-- Reads what follows the mark that begins a document. -/
def content? (n : Nat) (p : Parse) : Option (Node × Parse) :=
  match p.tokens with
  | [] => some (.blank, p)
  | t :: _ =>
    if isDirective t || t == .documentStart || t == .documentEnd then some (.blank, p)
    else node? .block n p

/-- The document of a text, given its tokens: one, or none at all. -/
def Node.ofTokens? (tokens : List Token) : Option Node := do
  -- No token leads more than four calls down.
  let fuel := 4 * tokens.length + 8
  let p : Parse := ⟨tokens, [], []⟩
  match tokens with
  | [] => return .blank
  | t :: _ =>
    let (node, p) ←
      if isDirective t || t == .documentStart then
        let p ← directives? false p tokens
        if p.sees .documentStart then
          content? fuel { p.drop with handles := p.handles ++ standardHandles }
        else none
      else node? .block fuel { p with handles := standardHandles }
    if p.tokens.all (· == .documentEnd) then return node else none

end EnvProfiles.Yaml
