import EnvProfiles.Yaml.Cursor
import EnvProfiles.Yaml.Token

/-!
# Directives, Anchors and Tags

The tokens of YAML that are made of words: the directives before a document,
the names of anchors, and the tags of nodes. Each reader takes the cursor at
the character that tells the token and returns the token with the cursor after
it, or nothing if the text breaks the rules of YAML.

## Main definitions

* `directive?`: A line that begins with a percent sign.
* `anchorName?`: The name of an anchor or an alias.
* `tag?`: The tag of a node.
-/

namespace EnvProfiles.Yaml

/-- The value of a hexadecimal digit of either case. -/
def hexDigit? (c : Char) : Option Nat :=
  if '0' ≤ c ∧ c ≤ '9' then some (c.toNat - '0'.toNat)
  else if 'a' ≤ c ∧ c ≤ 'f' then some (c.toNat - 'a'.toNat + 10)
  else if 'A' ≤ c ∧ c ≤ 'F' then some (c.toNat - 'A'.toNat + 10)
  else none

/-- The value of a run of decimal digits. -/
def decimalValue (digits : List Char) : Nat :=
  digits.foldl (fun n d => n * 10 + (d.toNat - '0'.toNat)) 0

/-- A number of one to nine digits in the version directive. -/
def versionNumber? (c : Cursor) : Option (Nat × Cursor) :=
  let (digits, after) := c.takeWhile Char.isDigit
  if digits.isEmpty || 9 < digits.length then none else some (decimalValue digits, after)

/-- Passes blanks and a comment up to the end of the line, which must come next, and over the
break. -/
def endOfLine? (c : Cursor) : Option Cursor :=
  let c := c.skipWhile isBlank
  let c := if c.next (· == '#') then c.skipLine else c
  if c.atEnd || c.atBreak then some c.skipBreak else none

/-- An octet written as a percent sign and two hexadecimal digits. -/
def octet? : List Char → Option (Nat × List Char)
  | '%' :: a :: b :: r => do
    let a ← hexDigit? a
    let b ← hexDigit? b
    return (a * 16 + b, r)
  | _ => none

/-- The octets that continue a character, six bits each. -/
def continuation? : Nat → Nat → List Char → Option (Nat × List Char)
  | 0, value, r => some (value, r)
  | n + 1, value, r => do
    let (octet, r) ← octet? r
    if octet / 0x40 == 2 then continuation? n (value * 0x40 + octet % 0x40) r else none

/-- One character given by its octets. The outcome is `none` where the octets do not have the form
of a character, and holds no character where they have the form but encode none. -/
def escapedChar? (r : List Char) : Option (Option Char × List Char) := do
  let (lead, r) ← octet? r
  let (extra, bits, least) ←
    if lead < 0x80 then some (0, lead, 0)
    else if lead / 0x20 == 6 then some (1, lead % 0x20, 0x80)
    else if lead / 0x10 == 14 then some (2, lead % 0x10, 0x800)
    else if lead / 0x8 == 30 then some (3, lead % 0x8, 0x10000)
    else none
  let (value, r) ← continuation? extra bits r
  let c := if h : value.isValidChar then some (Char.ofNatAux value h) else none
  return (if least ≤ value then c else none, r)

/-- Whether a character may stand in a tag; brackets and commas only where `full` is set. -/
def isTagChar (full : Bool) (c : Char) : Bool :=
  isWordChar c || ";/?:@&=+$.!~*'()".toList.contains c ||
    (full && (c == ',' || c == '[' || c == ']'))

/-- The characters of a tag, as many as there are. The outcome is `none` if an escape is
malformed. -/
def tagChars? (full : Bool) : Nat → Cursor → Label → Option (Label × Cursor)
  | 0, _, _ => none
  | n + 1, c, acc =>
    match c.rest with
    | [] => some (acc.reverse, c)
    | x :: _ =>
      if x == '%' then do
        let (decoded, r) ← escapedChar? c.rest
        tagChars? full n (c.advanceBy (c.rest.length - r.length)) (decoded :: acc)
      else if isTagChar full x then tagChars? full n c.advance (some x :: acc)
      else some (acc.reverse, c)

/-- The characters of a tag up to the first null character, of which at least one must be there
unless `mayBeEmpty` is set. -/
def tagText? (full mayBeEmpty : Bool) (c : Cursor) : Option (Label × Cursor) := do
  let (chars, c) ← tagChars? full c.steps c []
  if chars.isEmpty && !mayBeEmpty then none
  -- A null character ends the text, and what stands after it is dropped.
  else return (chars.takeWhile (· != some '\x00'), c)

/-- An exclamation mark and a word; a second exclamation mark makes it a handle. -/
def handle? (c : Cursor) : Option (List Char × Bool × Cursor) :=
  if c.next (· == '!') then
    let (word, c) := c.advance.takeWhile isWordChar
    if c.next (· == '!') then some ('!' :: word ++ ['!'], true, c.advance)
    else some ('!' :: word, false, c)
  else none

/-- The directive that declares a handle, after its name. -/
def handleDirective? (c : Cursor) : Option (Token × Cursor) := do
  let (name, closed, c) ← handle? (c.skipWhile isBlank)
  if !closed && name != ['!'] then none
  else if !c.atBlank then none
  else
    let (meaning, c) ← tagText? true false (c.skipWhile isBlank)
    if c.blankAt 0 then return (.handle name meaning, c) else none

/-- The directive that states the version, after its name. -/
def versionDirective? (c : Cursor) : Option (Token × Cursor) := do
  let (major, c) ← versionNumber? (c.skipWhile isBlank)
  if c.next (· == '.') then
    let (minor, c) ← versionNumber? c.advance
    return (.version major minor, c)
  else none

/-- A line that begins with a percent sign: the version, or a handle. -/
def directive? (c : Cursor) : Option (Token × Cursor) := do
  let (name, c) := c.advance.takeWhile isWordChar
  if name.isEmpty || !c.blankAt 0 then none
  else
    let (token, c) ←
      if name == "YAML".toList then versionDirective? c
      else if name == "TAG".toList then handleDirective? c
      else none
    let c ← endOfLine? c
    return (token, c)

/-- The name after the character that tells an anchor or an alias. -/
def anchorName? (c : Cursor) : Option (List Char × Cursor) :=
  let (name, c) := c.advance.takeWhile isWordChar
  if name.isEmpty then none
  else if c.blankAt 0 || c.next "?:,]\x7d%@\x60".toList.contains then some (name, c)
  else none

/-- A tag in full between angle brackets, after the opening one. -/
def verbatimTag? (c : Cursor) : Option (Token × Cursor) := do
  let (text, c) ← tagText? true false c
  if c.next (· == '>') then return (.tag [] text, c.advance) else none

/-- A tag that begins with a handle, or with an exclamation mark alone. A lone exclamation mark is
a tag of its own. -/
def shortTag? (c : Cursor) : Option (Token × Cursor) := do
  let (name, closed, after) ← handle? c
  if closed then
    let (suffix, c) ← tagText? false false after
    return (.tag name suffix, c)
  else
    let (suffix, c) ← tagText? false true after
    let suffix := name.tail.map some ++ suffix
    return (if suffix.isEmpty then .tag [] [some '!'] else .tag ['!'] suffix, c)

/-- The tag of a node; white space must follow it, or a comma within brackets. -/
def tag? (inFlow : Bool) (c : Cursor) : Option (Token × Cursor) := do
  let (token, c) ← if c.second (· == '<') then verbatimTag? (c.advanceBy 2) else shortTag? c
  if c.blankAt 0 || (inFlow && c.next (· == ',')) then return (token, c) else none

end EnvProfiles.Yaml
