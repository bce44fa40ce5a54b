/-!
# Patterns

A pattern is a text in which a star stands for any characters, a question mark
for one, and brackets for one of a set. A backslash before a character takes the
meaning from it. A bracket that is not closed stands for itself.

## Main definitions

* `Pattern.covers`: Whether a pattern matches a whole text.
* `Pattern.trim`: A text without what a pattern matches at an end of it.
* `Pattern.isPattern`: Whether a part of a path is a pattern.
* `Pattern.plain`: The text that a pattern stands for if nothing matches it.
-/

namespace EnvProfiles.Shell.Pattern

/-- The classes of characters that brackets can name. -/
def classes : List (String × (Char → Bool)) :=
  [("alnum", Char.isAlphanum), ("alpha", Char.isAlpha),
    ("blank", fun c => c == ' ' || c == '\t'),
    ("cntrl", fun c => c.toNat < 32 || c.toNat == 127),
    ("digit", Char.isDigit),
    ("graph", fun c => 32 < c.toNat && c.toNat < 127),
    ("lower", Char.isLower),
    ("print", fun c => 32 ≤ c.toNat && c.toNat < 127),
    ("punct", fun c => 32 < c.toNat && c.toNat < 127 && !c.isAlphanum),
    ("space", fun c => c == ' ' || (9 ≤ c.toNat && c.toNat ≤ 13)),
    ("upper", Char.isUpper),
    ("xdigit", fun c => c.isDigit || ('a' ≤ c && c ≤ 'f') || ('A' ≤ c && c ≤ 'F'))]

/-- The text after a beginning. -/
def after? (start cs : List Char) : Option (List Char) :=
  if start.isPrefixOf cs then some (cs.drop start.length) else none

/-- The class that the text after a bracket names, and what follows. -/
def class? (cs : List Char) : Option ((Char → Bool) × List Char) :=
  classes.findSome? fun (name, p) =>
    (after? ((":" ++ name ++ ":]").toList) cs).map fun r => (p, r)

/-- The set that brackets stand for, given what follows the first bracket, and what follows the
last one. The first character is a member in any case. -/
def members : Nat → List Char → Option ((Char → Bool) × List Char)
  | 0, _ => none
  | n + 1, cs =>
    let rest (p : Char → Bool) (r : List Char) : Option ((Char → Bool) × List Char) :=
      match r with
      | ']' :: r => some (p, r)
      | r => (members n r).map fun (q, r) => (fun c => p c || q c, r)
    let range (first : Char) (r : List Char) : Option ((Char → Bool) × List Char) :=
      match r with
      | '-' :: ']' :: _ => rest (· == first) r
      | '-' :: '\\' :: last :: r => rest (fun c => first ≤ c && c ≤ last) r
      | '-' :: last :: r => rest (fun c => first ≤ c && c ≤ last) r
      | r => rest (· == first) r
    match cs with
    | [] => none
    | '[' :: r =>
      match class? r with
      | some (p, r) => rest p r
      | none => range '[' r
    | '\\' :: c :: r => range c r
    | c :: r => range c r

/-- The set that a bracket begins, and what follows it. -/
def set? (cs : List Char) : Option ((Char → Bool) × List Char) :=
  match cs with
  | '!' :: r => (members (r.length + 1) r).map fun (p, r) => (fun c => !p c, r)
  | r => members (r.length + 1) r

/-- What one place of a pattern asks for. -/
inductive Item where
  | any
  | one (p : Char → Bool)

/-- The places of a pattern. -/
def items : Nat → List Char → List Item
  | 0, _ => []
  | _ + 1, [] => []
  | n + 1, '*' :: r => .any :: items n r
  | n + 1, '?' :: r => .one (fun _ => true) :: items n r
  | n + 1, '\\' :: c :: r => .one (· == c) :: items n r
  | n + 1, '[' :: r =>
    match set? r with
    | some (p, r) => .one p :: items n r
    | none => .one (· == '[') :: items n r
  | n + 1, c :: r => .one (· == c) :: items n r

/-- Whether places match a whole text. -/
def matchItems : List Item → List Char → Bool
  | [], cs => cs.isEmpty
  | .any :: is, cs => matchAny (matchItems is) cs
  | .one p :: is, c :: r => p c && matchItems is r
  | .one _ :: _, [] => false
where
  /-- Whether some end of a text satisfies a condition. -/
  matchAny (p : List Char → Bool) : List Char → Bool
    | [] => p []
    | c :: r => p (c :: r) || matchAny p r

/-- The places of a pattern. -/
def ofChars (pattern : List Char) : List Item := items (pattern.length + 1) pattern

/-- Whether a pattern matches a whole text. -/
def covers (pattern text : List Char) : Bool := matchItems (ofChars pattern) text

/-- A text without what a pattern matches at its end or its start, as little of it as there can be
or as much. If the pattern matches nothing there, the text stays as it is. -/
def trim (pattern text : List Char) (atEnd longest : Bool) : List Char :=
  let is := ofChars pattern
  let lengths := List.range (text.length + 1)
  let lengths := if longest then lengths.reverse else lengths
  if atEnd then
    match lengths.find? fun n => matchItems is (text.drop (text.length - n)) with
    | some n => text.take (text.length - n)
    | none => text
  else
    match lengths.find? fun n => matchItems is (text.take n) with
    | some n => text.drop n
    | none => text

/-- Whether a text, which follows a bracket, holds the end of the brackets. -/
def isClosed : List Char → Bool
  | '\\' :: _ :: ']' :: _ => true
  | '\\' :: _ :: r => isClosed r
  | _ :: ']' :: _ => true
  | _ :: r => isClosed r
  | [] => false

/-- Whether a part of a path, which holds no slash, is a pattern. -/
def isPattern : List Char → Bool
  | '*' :: _ => true
  | '?' :: _ => true
  | '[' :: '!' :: r => isClosed r || isPattern r
  | '[' :: r => isClosed r || isPattern r
  | '\\' :: _ :: r => isPattern r
  | _ :: r => isPattern r
  | [] => false

/-- The text that a pattern stands for if nothing matches it. -/
def plain : List Char → List Char
  | '\\' :: c :: r => c :: plain r
  | c :: r => c :: plain r
  | [] => []

end EnvProfiles.Shell.Pattern
