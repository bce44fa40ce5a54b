import EnvProfiles.Yaml.Cursor

/-!
# Block Scalars

Scalars that are told by their indentation: literal ones keep their line
breaks, folded ones turn a break between two lines of text into a space. A
header of up to two characters says what becomes of the breaks at the end and
how far the scalar is indented; without it the first line of text decides.

## Main definitions

* `BlockHeader`: What the header says.
* `blockScalar?`: Reads a block scalar.
-/

namespace EnvProfiles.Yaml

/-- What becomes of the line breaks at the end of a block scalar. -/
inductive Chomping where
  | strip
  | clip
  | keep
deriving DecidableEq, Repr

/-- What the header of a block scalar says; an indentation of zero leaves it to the text. -/
structure BlockHeader where
  chomping : Chomping
  indentation : Nat

/-- The sign in a header that tells what becomes of the breaks at the end. -/
def chomping? (c : Cursor) : Option (Chomping × Cursor) :=
  if c.next (· == '+') then some (.keep, c.advance)
  else if c.next (· == '-') then some (.strip, c.advance)
  else none

/-- The digit in a header that tells the indentation; the inner outcome is `none` where there is
no digit, and the outer one where the digit is zero. -/
def indentationDigit? (c : Cursor) : Option (Option (Nat × Cursor)) :=
  match c.rest with
  | d :: _ =>
    if d == '0' then none
    else if d.isDigit then some (some (d.toNat - '0'.toNat, c.advance))
    else some none
  | [] => some none

/-- Reads a header; its two parts may stand in either order. -/
def blockHeader? (c : Cursor) : Option (BlockHeader × Cursor) :=
  match chomping? c with
  | some (chomping, c) => do
    match ← indentationDigit? c with
    | some (n, c) => return (⟨chomping, n⟩, c)
    | none => return (⟨chomping, 0⟩, c)
  | none => do
    match ← indentationDigit? c with
    | some (n, c) =>
      match chomping? c with
      | some (chomping, c) => return (⟨chomping, n⟩, c)
      | none => return (⟨.clip, n⟩, c)
    | none => return (⟨.clip, 0⟩, c)

/-- Passes up to a number of spaces, or all of them where the number is zero. -/
def skipIndentation (limit : Nat) (c : Cursor) : Cursor :=
  let spaces := c.rest.takeWhile (· == ' ')
  c.advanceBy (if limit == 0 then spaces.length else min spaces.length (limit - c.column))

/-- Passes the empty lines before a line of text. The outcome holds the breaks of those lines and
the widest indentation that was seen. -/
def emptyLines? (limit : Nat) :
    Nat → Cursor → List Char → Nat → Option (List Char × Nat × Cursor)
  | 0, _, _, _ => none
  | n + 1, c, breaks, widest =>
    let c := skipIndentation limit c
    let widest := max widest c.column
    -- A tab where the indentation would go on is an error.
    if (limit == 0 || c.column < limit) && c.next (· == '\t') then none
    else if c.atBreak then emptyLines? limit n c.skipBreak (breaks ++ c.breakText) widest
    else some (breaks, widest, c)

/-- The lines of a block scalar that are still to be read. -/
structure BlockState where
  text : List Char
  /-- The break after the line that was read last. -/
  pending : List Char
  /-- The breaks of the empty lines after it. -/
  more : List Char
  /-- Whether that line began with a blank. -/
  blank : Bool

/-- Adds a line of text, joining it to the lines before it. -/
def BlockState.addLine (s : BlockState) (folded : Bool) (line : List Char) : BlockState :=
  let blank := match line with
    | x :: _ => isBlank x
    | [] => false
  -- Lines that begin with a blank keep the breaks around them.
  let joint :=
    if folded && s.pending == ['\n'] && !s.blank && !blank then
      if s.more.isEmpty then [' '] else []
    else s.pending
  ⟨s.text ++ joint ++ s.more ++ line, [], [], blank⟩

/-- Reads lines of text as long as they are indented far enough. -/
def blockLines? (folded : Bool) (indentation : Nat) :
    Nat → Cursor → BlockState → Option (BlockState × Cursor)
  | 0, _, _ => none
  | n + 1, c, s =>
    if c.column == indentation && !c.atEnd then do
      let (line, c) := c.takeWhile fun x => !isBreak x
      let s := s.addLine folded line
      let pending := c.breakText
      let c := c.skipBreak
      let (more, _, c) ← emptyLines? indentation c.steps c [] 0
      blockLines? folded indentation n c { s with pending := pending, more := more }
    else some (s, c)

/-- Reads a block scalar from the character on that tells it, within a block of a given margin. -/
def blockScalar? (margin : Nat) (c : Cursor) : Option (List Char × Cursor) := do
  let folded := c.next (· == '>')
  let (header, c) ← blockHeader? c.advance
  let c := c.skipWhile isBlank
  let c := if c.next (· == '#') then c.skipLine else c
  if !(c.atEnd || c.atBreak) then none
  else
    let c := c.skipBreak
    -- The digit of the header counts from the column of the block around the scalar.
    let limit := if header.indentation == 0 then 0 else (margin - 1) + header.indentation
    let (more, widest, c) ← emptyLines? limit c.steps c [] 0
    let indentation := if limit == 0 then max (max widest margin) 1 else limit
    let (s, c) ← blockLines? folded indentation c.steps c ⟨[], [], more, false⟩
    let ending := match header.chomping with
      | .strip => []
      | .clip => s.pending
      | .keep => s.pending ++ s.more
    return (s.text ++ ending, c)

end EnvProfiles.Yaml
