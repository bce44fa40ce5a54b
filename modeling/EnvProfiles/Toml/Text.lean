import EnvProfiles.Toml.Space

/-!
# Texts and Keys of TOML

Texts stand between double quotes, where a backslash begins an escape, or
between single quotes, where nothing does. Three quotes of either kind enclose a
text of several lines; a line break right after them does not count, and a
backslash at the end of a line removes the white space up to the next text.

A key is a word or a text of one line; keys joined by dots lead to tables within
tables.

## Main definitions

* `text?`: A text of any of the four forms, from its first quote on.
* `keyPath?`: A key, or several joined by dots.
-/

namespace EnvProfiles.TomlReader

/-- How deep arrays and tables may be nested, and how many keys dots may join. -/
def nestingLimit : Nat := 80

/-- The value of a hexadecimal digit of either case. -/
def hexDigit? (c : Char) : Option Nat :=
  if '0' ≤ c ∧ c ≤ '9' then some (c.toNat - '0'.toNat)
  else if 'a' ≤ c ∧ c ≤ 'f' then some (c.toNat - 'a'.toNat + 10)
  else if 'A' ≤ c ∧ c ≤ 'F' then some (c.toNat - 'A'.toNat + 10)
  else none

/-- The character whose code point the first `n` characters give. -/
def codePoint? (n : Nat) (cs : List Char) : Option (Char × List Char) := do
  if cs.length < n then none
  else
    let value ← (cs.take n).foldlM (fun v d => (hexDigit? d).map (v * 16 + ·)) 0
    if h : value.isValidChar then some (Char.ofNatAux value h, cs.drop n) else none

/-- The character that an escape stands for, after the backslash. -/
def escape? : List Char → Option (Char × List Char)
  | 'b' :: r => some ('\x08', r)
  | 't' :: r => some ('\t', r)
  | 'n' :: r => some ('\n', r)
  | 'f' :: r => some ('\x0c', r)
  | 'r' :: r => some ('\r', r)
  | 'e' :: r => some ('\x1b', r)
  | '"' :: r => some ('"', r)
  | '\\' :: r => some ('\\', r)
  | 'x' :: r => codePoint? 2 r
  | 'u' :: r => codePoint? 4 r
  | 'U' :: r => codePoint? 8 r
  | _ => none

/-- The characters up to the closing double quote. -/
def quotedChars? : Nat → List Char → List Char → Option (List Char × List Char)
  | 0, _, _ => none
  | n + 1, cs, acc =>
    match cs with
    | [] => none
    | '"' :: r => some (acc.reverse, r)
    | '\\' :: r =>
      match escape? r with
      | some (c, r) => quotedChars? n r (c :: acc)
      | none => none
    | c :: r => if isVisible c then quotedChars? n r (c :: acc) else none

/-- The characters up to the closing single quote. -/
def literalChars? (cs : List Char) : Option (List Char × List Char) :=
  let inner := cs.takeWhile fun c => c != '\'' && isVisible c
  match cs.drop inner.length with
  | '\'' :: r => some (inner, r)
  | _ => none

/-- A text without the line break at its start. -/
def withoutFirstBreak (cs : List Char) : List Char := (lineBreak? cs).getD cs

/-- The quotes that end a text of several lines: three, before which two more may belong to the
text. The outcome is how many belong to the text, if the text ends here. -/
def closing? (quote : Char) (cs : List Char) : Option (Nat × List Char) :=
  -- Of more than three quotes the last three end the text.
  let n := min (cs.takeWhile (· == quote)).length 5
  if n < 3 then none else some (n - 3, cs.drop n)

/-- Passes the white space after a backslash that stands at the end of a line. -/
def continuedLine? (cs : List Char) : Option (List Char) :=
  match lineBreak? (skipBlanks cs) with
  | some r => some (dropSpace r)
  | none => none

/-- The characters up to three double quotes. -/
def quotedLines? : Nat → List Char → List Char → Option (List Char × List Char)
  | 0, _, _ => none
  | n + 1, cs, acc =>
    match closing? '"' cs with
    | some (extra, r) => some (acc.reverse ++ List.replicate extra '"', r)
    | none =>
      match cs with
      | [] => none
      | '\\' :: r =>
        match continuedLine? r with
        | some r => quotedLines? n r acc
        | none =>
          match escape? r with
          | some (c, r) => quotedLines? n r (c :: acc)
          | none => none
      | '\n' :: r => quotedLines? n r ('\n' :: acc)
      | '\r' :: '\n' :: r => quotedLines? n r ('\n' :: '\r' :: acc)
      | c :: r => if isVisible c then quotedLines? n r (c :: acc) else none

/-- The characters up to three single quotes. -/
def literalLines? : Nat → List Char → List Char → Option (List Char × List Char)
  | 0, _, _ => none
  | n + 1, cs, acc =>
    match closing? '\'' cs with
    | some (extra, r) => some (acc.reverse ++ List.replicate extra '\'', r)
    | none =>
      match cs with
      | [] => none
      | '\n' :: r => literalLines? n r ('\n' :: acc)
      | '\r' :: '\n' :: r => literalLines? n r ('\n' :: '\r' :: acc)
      | c :: r => if isVisible c then literalLines? n r (c :: acc) else none

/-- A text of one line, from its first quote on. -/
def lineText? : List Char → Option (String × List Char)
  | '"' :: r => (quotedChars? (r.length + 1) r []).map fun (t, r) => (String.ofList t, r)
  | '\'' :: r => (literalChars? r).map fun (t, r) => (String.ofList t, r)
  | _ => none

/-- A text of any form, from its first quote on. -/
def text? : List Char → Option (String × List Char)
  | '"' :: '"' :: '"' :: r =>
    let r := withoutFirstBreak r
    (quotedLines? (r.length + 1) r []).map fun (t, r) => (String.ofList t, r)
  | '\'' :: '\'' :: '\'' :: r =>
    let r := withoutFirstBreak r
    (literalLines? (r.length + 1) r []).map fun (t, r) => (String.ofList t, r)
  | cs => lineText? cs

/-- Whether a character may stand in a key without quotes. -/
def isKeyChar (c : Char) : Bool := c.isAlphanum || c == '_' || c == '-'

/-- A single key. -/
def key? (cs : List Char) : Option (String × List Char) :=
  match cs with
  | '"' :: _ => lineText? cs
  | '\'' :: _ => lineText? cs
  | _ =>
    let word := cs.takeWhile isKeyChar
    if word.isEmpty then none else some (String.ofList word, cs.drop word.length)

/-- Keys joined by dots, at most `n` of them, with the blanks around them. -/
def keys? : Nat → List Char → Option (List String × List Char)
  | 0, _ => none
  | n + 1, cs => do
    let (key, cs) ← key? (skipBlanks cs)
    match skipBlanks cs with
    | '.' :: r =>
      let (keys, r) ← keys? n r
      return (key :: keys, r)
    | r => return ([key], r)

/-- A key, or several joined by dots, of which there are no more than tables may be nested. -/
def keyPath? (cs : List Char) : Option (List String × List Char) := keys? nestingLimit cs

end EnvProfiles.TomlReader
