import EnvProfiles.Yaml.Fold
import EnvProfiles.Yaml.Word

/-!
# Quoted Scalars

Scalars in single or double quotes. Between single quotes a quote is written
twice and nothing else is special. Between double quotes a backslash begins an
escape, and one before a line break removes the break.

## Main definitions

* `escape?`: The character that an escape stands for.
* `quotedScalar?`: Reads a scalar in quotes of either kind.
-/

namespace EnvProfiles.Yaml

/-- The value of hexadecimal digits. -/
def hexValue? (digits : List Char) : Option Nat :=
  digits.foldlM (fun n d => (hexDigit? d).map (n * 16 + ·)) 0

/-- The character of a code point given by the first `n` characters. -/
def codePoint? (n : Nat) (r : List Char) : Option (Char × Nat) := do
  if r.length < n then none
  else
    let value ← hexValue? (r.take n)
    if h : value.isValidChar then some (Char.ofNatAux value h, n + 2) else none

/-- The character that an escape stands for, and how many characters the escape takes, of which
the backslash is the first. -/
def escape? : List Char → Option (Char × Nat)
  | [] => none
  | x :: r =>
    match x with
    | '0' => some ('\x00', 2)
    | 'a' => some ('\x07', 2)
    | 'b' => some ('\x08', 2)
    | 't' => some ('\t', 2)
    | '\t' => some ('\t', 2)
    | 'n' => some ('\n', 2)
    | 'v' => some ('\x0b', 2)
    | 'f' => some ('\x0c', 2)
    | 'r' => some ('\r', 2)
    | 'e' => some ('\x1b', 2)
    | ' ' => some (' ', 2)
    | '"' => some ('"', 2)
    | '/' => some ('/', 2)
    | '\\' => some ('\\', 2)
    | 'N' => some ('\u0085', 2)
    | '_' => some ('\u00a0', 2)
    | 'L' => some ('\u2028', 2)
    | 'P' => some ('\u2029', 2)
    | 'x' => codePoint? 2 r
    | 'u' => codePoint? 4 r
    | 'U' => codePoint? 8 r
    | _ => none

/-- The characters up to white space or the closing quote, with the escapes resolved. The outcome
tells in addition whether an escaped line break was passed last. -/
def quotedWord? (single : Bool) : Nat → Cursor → List Char → Option (List Char × Bool × Cursor)
  | 0, _, _ => none
  | n + 1, c, acc =>
    match c.rest with
    | [] => some (acc.reverse, false, c)
    | x :: r =>
      if isBlank x || isBreak x then some (acc.reverse, false, c)
      else if single && x == '\'' && c.second (· == '\'') then
        quotedWord? single n (c.advanceBy 2) ('\'' :: acc)
      else if x == (if single then '\'' else '"') then some (acc.reverse, false, c)
      else if !single && x == '\\' then
        -- An escaped break ends the stretch, but adds nothing to the text.
        if c.second isBreak then some (acc.reverse, true, c.advance.skipBreak)
        else
          match escape? r with
          | some (y, width) => quotedWord? single n (c.advanceBy width) (y :: acc)
          | none => none
      else quotedWord? single n c.advance (x :: acc)

/-- Reads the stretches of a quoted scalar up to the closing quote. -/
def quotedLoop (single : Bool) : Nat → Cursor → List Char → Option (List Char × Cursor)
  | 0, _, _ => none
  | n + 1, c, acc =>
    if c.atDocumentMark || c.atEnd then none
    else do
      let (word, escaped, c) ← quotedWord? single c.steps c []
      let acc := acc ++ word
      if !escaped && c.next (· == if single then '\'' else '"') then return (acc, c.advance)
      else
        let (gap, c) ← (if escaped then Gap.escaped else Gap.none).read? 0 c.steps c
        quotedLoop single n c (acc ++ gap.text)

/-- Reads a scalar in quotes, from its opening quote on. -/
def quotedScalar? (c : Cursor) : Option (List Char × Cursor) :=
  quotedLoop (c.next (· == '\'')) (c.steps + 1) c.advance []

end EnvProfiles.Yaml
