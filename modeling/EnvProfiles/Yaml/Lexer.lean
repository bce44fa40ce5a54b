import EnvProfiles.Yaml.Word
import EnvProfiles.Yaml.Plain
import EnvProfiles.Yaml.Quoted
import EnvProfiles.Yaml.Block

/-!
# From Text to Tokens

Cuts a YAML text into tokens. Two things are found out on the way that the
text shows only indirectly. Indentation opens and closes blocks. And a node
may turn out to be a key when a colon follows it, in which case the token that
announces a key is put before it afterwards; until then it is remembered as a
candidate, one for every level of brackets.

The margin of a block is the column after the one in which its items stand, so
that zero is the margin outside of all blocks, and a token opens a block if it
stands at the margin or to the right of it.

## Main definitions

* `Candidate`: A token that may turn out to begin a key.
* `Lexer`: What is known while tokens are being cut off.
* `tokens?`: All tokens of a text.
-/

namespace EnvProfiles.Yaml

/-- A token that may turn out to begin a key. -/
structure Candidate where
  /-- Whether nothing but a key may stand there. -/
  required : Bool
  /-- How many tokens come before it. -/
  position : Nat
  index : Nat
  line : Nat
  column : Nat

/-- What is known while tokens are being cut off. -/
structure Lexer where
  cursor : Cursor
  tokens : Array Token
  /-- The margin of the innermost block. -/
  margin : Nat
  /-- The margins of the blocks around it, the nearest first. -/
  margins : List Nat
  /-- The candidate on the innermost level of brackets. -/
  candidate : Option Candidate
  /-- The candidates on the levels around it, the nearest first. -/
  outer : List (Option Candidate)
  /-- Whether the next token may begin a key. -/
  keyAllowed : Bool

namespace Lexer

/-- What is known before the first token. -/
def start (text : List Char) : Lexer := ⟨.start text, #[], 0, [], none, [], true⟩

/-- Whether the next token stands within brackets. -/
def inFlow (s : Lexer) : Bool := !s.outer.isEmpty

/-- Adds a token at the end. -/
def push (s : Lexer) (t : Token) : Lexer := { s with tokens := s.tokens.push t }

/-- Adds a token after the first `position` tokens. -/
def pushAt (s : Lexer) (position : Nat) (t : Token) : Lexer :=
  { s with tokens := s.tokens.insertIdxIfInBounds position t }

/-- Takes the next `n` characters for a token. -/
def take (s : Lexer) (n : Nat) (t : Token) : Lexer :=
  { s with cursor := s.cursor.advanceBy n, tokens := s.tokens.push t }

/-- Opens a block if `column` is not to the left of the margin. -/
def openBlock (s : Lexer) (column position : Nat) (t : Token) : Lexer :=
  if !s.inFlow && s.margin ≤ column then
    { s.pushAt position t with margin := column + 1, margins := s.margin :: s.margins }
  else s

/-- Closes the blocks whose margin is greater than `limit`, the innermost first. -/
def closeBlocks (limit : Nat) (s : Lexer) : List Nat → Lexer
  | [] => s
  | m :: r =>
    if limit < s.margin then
      closeBlocks limit { s.push .blockEnd with margin := m, margins := r } r
    else s

/-- Closes the blocks whose items stand to the right of `column`. -/
def unindent (s : Lexer) (column : Nat) : Lexer :=
  if s.inFlow then s else closeBlocks (column + 1) s s.margins

/-- Closes all blocks. -/
def unindentAll (s : Lexer) : Lexer := if s.inFlow then s else closeBlocks 0 s s.margins

/-- Forgets the candidate; it is an error if nothing but a key was allowed there. -/
def dropCandidate (s : Lexer) : Option Lexer :=
  match s.candidate with
  | some c => if c.required then none else some { s with candidate := none }
  | none => some s

/-- Remembers the next token as a candidate if a key is allowed. -/
def saveCandidate (s : Lexer) : Option Lexer :=
  if s.keyAllowed then do
    let s ← s.dropCandidate
    let c := s.cursor
    return { s with
      -- A token in the column of the items of a block can only be a key.
      candidate := some ⟨!s.inFlow && s.margin == c.column + 1, s.tokens.size, c.index, c.line,
        c.column⟩ }
  else some s

/-- Whether a candidate is out of reach: a key stands on one line and within 1024 octets of its
colon. -/
def isStale (c : Cursor) (k : Candidate) : Bool := k.line < c.line || k.index + 1024 < c.index

/-- Forgets a candidate that is out of reach. -/
def refresh (c : Cursor) : Option Candidate → Option (Option Candidate)
  | some k => if isStale c k then (if k.required then none else some none) else some (some k)
  | none => some none

/-- Forgets all candidates that are out of reach. -/
def dropStale (s : Lexer) : Option Lexer := do
  let candidate ← refresh s.cursor s.candidate
  let outer ← s.outer.mapM (refresh s.cursor)
  return { s with candidate := candidate, outer := outer }

/-- Passes white space and comments up to the next token. -/
def skipSpace : Nat → Lexer → Lexer
  | 0, s => s
  | n + 1, s =>
    let c := s.cursor
    -- A byte order mark may begin any line, and takes a column there.
    let c := if c.column == 0 && c.next (· == '\ufeff') then c.advance else c
    -- A tab is no indentation, so it is passed only where no block can begin.
    let c := c.skipWhile fun x => x == ' ' || ((s.inFlow || !s.keyAllowed) && x == '\t')
    let c := if c.next (· == '#') then c.skipLine else c
    if c.atBreak then
      skipSpace n { s with cursor := c.skipBreak, keyAllowed := s.keyAllowed || !s.inFlow }
    else { s with cursor := c }

/-- A directive, or a mark that begins or ends a document: all blocks end before it. -/
def documentToken (s : Lexer) (read : Cursor → Option (Token × Cursor)) : Option Lexer := do
  let s ← s.unindentAll.dropCandidate
  let (t, c) ← read s.cursor
  return { s.push t with cursor := c, keyAllowed := false }

/-- An opening bracket. -/
def openFlow (s : Lexer) (t : Token) : Option Lexer := do
  let s ← s.saveCandidate
  return { s.take 1 t with candidate := none, outer := s.candidate :: s.outer, keyAllowed := true }

/-- A closing bracket. -/
def closeFlow (s : Lexer) (t : Token) : Option Lexer := do
  let s ← s.dropCandidate
  let s := { s.take 1 t with keyAllowed := false }
  match s.outer with
  | k :: r => return { s with candidate := k, outer := r }
  | [] => return s

/-- The hyphen before an item. -/
def blockEntry (s : Lexer) : Option Lexer := do
  if !s.inFlow && !s.keyAllowed then none
  else
    let s := s.openBlock s.cursor.column s.tokens.size .blockSequenceStart
    let s ← s.dropCandidate
    return { s.take 1 .blockEntry with keyAllowed := true }

/-- The question mark before a key. -/
def key (s : Lexer) : Option Lexer := do
  if !s.inFlow && !s.keyAllowed then none
  else
    let s := s.openBlock s.cursor.column s.tokens.size .blockMappingStart
    let s ← s.dropCandidate
    return { s.take 1 .key with keyAllowed := !s.inFlow }

/-- The colon before a value. If there is a candidate, it was a key. -/
def value (s : Lexer) : Option Lexer :=
  match s.candidate with
  | some k =>
    -- The key was announced by nothing, so its token and that of its block go before it.
    let s := s.pushAt k.position .key
    let s := { s.openBlock k.column k.position .blockMappingStart with candidate := none }
    some { s.take 1 .value with keyAllowed := false }
  | none =>
    if !s.inFlow && !s.keyAllowed then none
    else
      let s := s.openBlock s.cursor.column s.tokens.size .blockMappingStart
      some { s.take 1 .value with keyAllowed := !s.inFlow }

/-- A token that may begin a key and within which no key may begin. -/
def word (s : Lexer) (read : Cursor → Option (Token × Cursor)) : Option Lexer := do
  let s ← s.saveCandidate
  let (t, c) ← read s.cursor
  return { s.push t with cursor := c, keyAllowed := false }

/-- A scalar without quotes; a key may begin after it if a line ended. -/
def plain (s : Lexer) : Option Lexer := do
  let s ← s.saveCandidate
  let (text, broken, c) ← plainScalar? s.inFlow s.margin s.cursor
  return { s.push (.scalar text true) with cursor := c, keyAllowed := broken }

/-- A scalar that is told by its indentation. -/
def block (s : Lexer) : Option Lexer := do
  let s ← s.dropCandidate
  let (text, c) ← blockScalar? s.margin s.cursor
  return { s.push (.scalar text false) with cursor := c, keyAllowed := true }

/-- Cuts off the token that begins with a given character. -/
def tokenAt (s : Lexer) (x : Char) : Option Lexer :=
  let c := s.cursor
  if c.column == 0 && x == '%' then s.documentToken directive?
  else if c.atMark '-' then s.documentToken fun c => some (.documentStart, c.advanceBy 3)
  else if c.atMark '.' then s.documentToken fun c => some (.documentEnd, c.advanceBy 3)
  else if x == '[' then s.openFlow .flowSequenceStart
  else if x == '{' then s.openFlow .flowMappingStart
  else if x == ']' then s.closeFlow .flowSequenceEnd
  else if x == '}' then s.closeFlow .flowMappingEnd
  else if x == ',' then do
    let s ← s.dropCandidate
    return { s.take 1 .flowEntry with keyAllowed := true }
  else if x == '-' && c.blankAt 1 then s.blockEntry
  else if x == '?' && (s.inFlow || c.blankAt 1) then s.key
  else if x == ':' && (s.inFlow || c.blankAt 1) then s.value
  else if x == '*' then s.word fun c => (anchorName? c).map fun (n, c) => (.reference n, c)
  else if x == '&' then s.word fun c => (anchorName? c).map fun (n, c) => (.anchor n, c)
  else if x == '!' then s.word (tag? s.inFlow)
  else if (x == '|' || x == '>') && !s.inFlow then s.block
  else if x == '\'' || x == '"' then
    s.word fun c => (quotedScalar? c).map fun (t, c) => (.scalar t false, c)
  else if startsPlain s.inFlow c then s.plain
  else none

/-- Cuts off tokens up to the end of the text, where all blocks end. -/
def run : Nat → Lexer → Option (List Token)
  | 0, _ => none
  | n + 1, s => do
    let s := skipSpace s.cursor.steps s
    let s ← s.dropStale
    -- A block ends before the first token to the left of its items.
    let s := s.unindent s.cursor.column
    match s.cursor.rest with
    | [] =>
      let s ← s.unindentAll.dropCandidate
      return s.tokens.toList
    | x :: _ => run n (← s.tokenAt x)

end Lexer

/-- All tokens of a text, unless the text breaks the rules of YAML. -/
def tokens? (text : List Char) : Option (List Token) :=
  if text.all isAllowed then Lexer.run (text.length + 1) (.start text) else none

end EnvProfiles.Yaml
