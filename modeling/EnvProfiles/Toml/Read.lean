import EnvProfiles.Toml.Moment
import EnvProfiles.Toml.Number
import EnvProfiles.Toml.Text
import EnvProfiles.Toml.Tree

/-!
# Reading TOML

A TOML text is a list of lines, each of which opens a table or puts a value
under a key of the table that was opened last. Arrays and tables between
brackets may run over several lines.

## Main definitions

* `TomlReader.value?`: A value.
* `TomlReader.lines?`: The lines of a text.
* `Toml.read?`: The table that a text describes.
-/

namespace EnvProfiles

namespace TomlReader

/-- Whether a character may stand in a number, a moment or a truth value. -/
def isWordChar (c : Char) : Bool :=
  c.isAlphanum || c == '_' || c == '-' || c == '+' || c == '.' || c == ':'

/-- The word that comes next. A blank belongs to it if it stands between a date and a time. -/
def word (cs : List Char) : List Char × List Char :=
  let front := cs.takeWhile isWordChar
  let rest := cs.drop front.length
  match date? front, rest with
  | some (_, []), ' ' :: d :: r =>
    if d.isDigit then
      let time := (d :: r).takeWhile isWordChar
      (front ++ ' ' :: time, (d :: r).drop time.length)
    else (front, rest)
  | _, _ => (front, rest)

/-- What a word says: a truth value, a moment or a number. -/
def wordValue? (w : List Char) : Option Toml :=
  if w == "true".toList then some (.bool true)
  else if w == "false".toList then some (.bool false)
  else (moment? w).or (number? w)

mutual

/-- A value, in which brackets may still be nested `depth` deep; the second argument bounds how
many values and brackets there are. -/
def value? (depth : Nat) : Nat → List Char → Option (Toml × List Char)
  | 0, _ => none
  | n + 1, cs =>
    match cs, depth with
    | '"' :: _, _ => (text? cs).map fun (t, r) => (.text t, r)
    | '\'' :: _, _ => (text? cs).map fun (t, r) => (.text t, r)
    | '[' :: r, d + 1 => (items? d n r).map fun (items, r) => (.array items, r)
    | '{' :: r, d + 1 =>
      (fields? d n r []).map fun (entries, r) => (.table (Item.toTable entries), r)
    | _, _ =>
      let (w, r) := word cs
      (wordValue? w).map fun v => (v, r)
termination_by structural n => n

/-- The items of an array up to its end. -/
def items? (depth : Nat) : Nat → List Char → Option (List Toml × List Char)
  | 0, _ => none
  | n + 1, cs => do
    let cs ← skipLines? (cs.length + 1) cs
    match cs with
    | ']' :: r => return ([], r)
    | _ =>
      let (v, cs) ← value? depth n cs
      let cs ← skipLines? (cs.length + 1) cs
      match cs with
      | ',' :: r =>
        let (vs, r) ← items? depth n r
        return (v :: vs, r)
      | ']' :: r => return ([v], r)
      | _ => none
termination_by structural n => n

/-- The keys and values between curly brackets, added to those before them. -/
def fields? (depth : Nat) : Nat → List Char → Item.Entries → Option (Item.Entries × List Char)
  | 0, _, _ => none
  | n + 1, cs, entries => do
    let cs ← skipLines? (cs.length + 1) cs
    match cs with
    | '}' :: r => return (entries, r)
    | _ =>
      let (entries, cs) ← field? depth n cs entries
      let cs ← skipLines? (cs.length + 1) cs
      match cs with
      | ',' :: r => fields? depth n r entries
      | '}' :: r => return (entries, r)
      | _ => none
termination_by structural n => n

/-- A key, an equals sign and a value, between which lines may end. -/
def field? (depth : Nat) : Nat → List Char → Item.Entries → Option (Item.Entries × List Char)
  | 0, _, _ => none
  | n + 1, cs, entries => do
    let (path, cs) ← keyPath? cs
    match ← skipLines? (cs.length + 1) cs with
    | '=' :: r =>
      let (v, r) ← value? depth n (← skipLines? (r.length + 1) r)
      let entries ← Item.set? v path entries
      return (entries, r)
    | _ => none
termination_by structural n => n

end

/-- The path in a header, after its opening brackets. -/
def header? (closing : List Char) (cs : List Char) : Option (List String × List Char) := do
  let (path, cs) ← keyPath? cs
  if cs.take closing.length == closing then return (path, cs.drop closing.length) else none

/-- A line, which changes the root and may open another table. -/
def line? (entries : Item.Entries) (current : List String) (cs : List Char) :
    Option (Item.Entries × List String × List Char) :=
  match cs with
  | '[' :: '[' :: r => do
    let (path, r) ← header? [']', ']'] r
    let entries ← Item.openElement? path entries
    return (entries, path, r)
  | '[' :: r => do
    let (path, r) ← header? [']'] r
    let entries ← Item.openTable? path entries
    return (entries, path, r)
  | _ => do
    let (path, r) ← keyPath? cs
    match r with
    | '=' :: r =>
      let (v, r) ← value? nestingLimit (2 * r.length + 2) (skipBlanks r)
      let entries ← Item.atHeader? current (Item.set? v path) entries
      return (entries, current, r)
    | _ => none

/-- The lines of a text, and the root that they describe. -/
def lines? : Nat → Item.Entries → List String → List Char → Option Item.Entries
  | 0, _, _, _ => none
  | n + 1, entries, current, cs => do
    let cs ← skipLines? (cs.length + 1) cs
    if cs.isEmpty then return entries
    else
      let (entries, current, cs) ← line? entries current cs
      let cs ← endOfLine? cs
      lines? n entries current cs

end TomlReader

/-- A text without a byte order mark at its start. -/
def Toml.withoutMark (text : String) : String :=
  match text.toList with
  | '\ufeff' :: r => String.ofList r
  | _ => text

/-- The table that a text describes, unless the text breaks the rules of TOML. -/
def Toml.read? (text : String) : Option TomlTable :=
  let cs := (withoutMark text).toList
  (TomlReader.lines? (cs.length + 1) [] [] cs).map TomlReader.Item.toTable

end EnvProfiles
