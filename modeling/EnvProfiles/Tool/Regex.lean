import EnvProfiles.Shell.Pattern

/-!
# Regular Expressions

Regular expressions in both of their notations: one in which the signs for
groups, bounds and choices have a backslash, and one in which they have none. Of
all parts of a text that an expression matches the first one counts, and of those
that begin there the longest one; a group takes as much as it can, the first one
first.

An expression is matched by the set of places at which a match can end, so that
nested repetitions do not multiply the work. Only if an expression refers back to
what a group has matched, the groups tell places apart.

## Main definitions

* `Regex`: An expression.
* `Regex.ends`: The places at which a match that begins somewhere can end.
* `Matcher`: An expression that has been read, and `Matcher.ofText` which reads it.
* `Matcher.find?`: The first part of a text that matches.
-/

namespace EnvProfiles

/-- A regular expression. -/
inductive Regex where
  | empty
  | one (holds : Char → Bool)
  /-- A place, of which only the characters on both sides count. -/
  | place (holds : Option Char → Option Char → Bool)
  | both (first second : Regex)
  | either (first second : Regex)
  | repeated (least : Nat) (most : Option Nat) (body : Regex)
  | group (number : Nat) (body : Regex)
  /-- What a group has matched. -/
  | back (number : Nat)

/-- A place at which a match can end, and what the groups have matched. -/
structure Reach where
  place : Nat
  groups : List (Nat × Nat × Nat)
deriving DecidableEq, Repr

namespace Regex

/-- Whether an expression refers back to a group. -/
def refers : Regex → Bool
  | both a b => a.refers || b.refers
  | either a b => a.refers || b.refers
  | repeated _ _ a => a.refers
  | group _ a => a.refers
  | back _ => true
  | _ => false

/-- Whether two ways to get to a place are the same. -/
def same (exact : Bool) (a b : Reach) : Bool :=
  a.place == b.place && (!exact || a.groups == b.groups)

/-- Ways to get to places, the farthest first, and only one to each of them. -/
def arranged (exact : Bool) (rs : List Reach) : List Reach :=
  let unique := rs.foldl (fun acc r => if acc.any (same exact r) then acc else r :: acc) []
  unique.reverse.mergeSort fun a b => b.place ≤ a.place

/-- Takes a step so many times. -/
def iterate (exact : Bool) (step : Reach → List Reach) : Nat → List Reach → List Reach
  | 0, rs => rs
  | n + 1, rs => iterate exact step n (arranged exact (rs.flatMap step))

/-- Takes a step as often as new places are found, and at most so many times. -/
def explore (exact : Bool) (step : Reach → List Reach) : Nat → List Reach → List Reach → List Reach
  | 0, _, found => found
  | n + 1, latest, found =>
    let next := arranged exact (latest.flatMap fun r =>
      (step r).filter fun t => t.place != r.place && !found.any (same exact t))
    if next.isEmpty then found else explore exact step n next (found ++ next)

/-- The places at which a match that has got to a place can end. -/
def ends (text : Array Char) (exact : Bool) : Regex → Reach → List Reach
  | empty, r => [r]
  | one holds, r =>
    match text[r.place]? with
    | some c => if holds c then [{ r with place := r.place + 1 }] else []
    | none => []
  | place holds, r =>
    let before := if r.place == 0 then none else text[r.place - 1]?
    if holds before text[r.place]? then [r] else []
  | both a b, r => arranged exact ((ends text exact a r).flatMap fun s => ends text exact b s)
  | either a b, r => arranged exact (ends text exact a r ++ ends text exact b r)
  | repeated least most a, r =>
    let step (s : Reach) : List Reach := ends text exact a s
    let begun := iterate exact step least [r]
    let bound := match most with
      | some n => n - least
      | none => text.size + 1
    arranged exact (explore exact step bound begun begun)
  | group n a, r =>
    (ends text exact a r).map fun s =>
      { s with groups := (n, r.place, s.place) :: s.groups.filter fun g => g.1 != n }
  | back n, r =>
    match r.groups.lookup n with
    | none => []
    | some (a, b) =>
      if text.extract a b == text.extract r.place (r.place + (b - a)) &&
        r.place + (b - a) ≤ text.size then [{ r with place := r.place + (b - a) }]
      else []

/-! ### Reading -/

/-- What becomes of a sign for a repetition before which there is nothing to repeat. -/
inductive Leading where
  | literal
  | skipped
  | refused
deriving DecidableEq, Repr

/-- What signs mean. -/
structure Dialect where
  /-- Whether the signs for groups, choices and bounds have no backslash. -/
  bare : Bool
  /-- Whether a plus or a question mark without a backslash is a sign. -/
  bareCounts : Bool
  bounds : Bool
  /-- Whether a bracket that closes no group stands for itself. -/
  strayClosing : Bool
  /-- Whether a brace that opens no bounds stands for itself. -/
  looseBraces : Bool
  leading : Leading
  /-- Whether bounds need something before them that is not repeated yet. -/
  strictBounds : Bool
  /-- Whether a range may hold nothing. -/
  emptyRanges : Bool
  /-- Whether the start and the end of a line or a word may be repeated. -/
  repeatsPlaces : Bool
deriving DecidableEq, Repr

namespace Dialect

/-- Expressions with backslashes, as they are looked for in lines. -/
def basic : Dialect := ⟨false, false, true, false, false, .literal, false, false, true⟩

/-- Expressions without backslashes, as they are looked for in lines. -/
def extended : Dialect := ⟨true, true, true, true, true, .skipped, false, false, true⟩

/-- Expressions with backslashes that are read more strictly. -/
def strictBasic : Dialect := ⟨false, false, true, false, false, .literal, true, false, false⟩

/-- Expressions without backslashes that are read more strictly. -/
def strictExtended : Dialect := ⟨true, true, true, false, false, .refused, false, false, false⟩

/-- Expressions for words. -/
def forWords : Dialect := ⟨false, false, true, false, false, .literal, false, true, false⟩

/-- Expressions for paths. -/
def forPaths : Dialect := ⟨false, true, false, false, false, .literal, false, true, false⟩

end Dialect

/-- How an expression is written and what it is matched against. -/
structure Notation where
  dialect : Dialect
  ignoresCase : Bool
  /-- Whether the ends of lines within a text count as ends. -/
  byLine : Bool
deriving DecidableEq, Repr

def isWordChar (c : Char) : Bool := c.isAlphanum || c == '_'

/-- The places that a letter after a backslash stands for. -/
def placeOf? (letter : Char) : Option Regex :=
  let isWord (c : Option Char) : Bool := c.any isWordChar
  match letter with
  | '<' => some (.place fun a b => !isWord a && isWord b)
  | '>' => some (.place fun a b => isWord a && !isWord b)
  | 'b' => some (.place fun a b => isWord a != isWord b)
  | 'B' => some (.place fun a b => isWord a == isWord b)
  | '\x60' => some (.place fun a _ => a.isNone)
  | '\'' => some (.place fun _ b => b.isNone)
  | _ => none

def isSpaceChar (c : Char) : Bool := c == ' ' || ('\t' ≤ c && c ≤ '\r')

/-- The characters that a letter after a backslash stands for. -/
def classOf? (letter : Char) : Option (Char → Bool) :=
  match letter with
  | 'w' => some isWordChar
  | 'W' => some fun c => !isWordChar c
  | 's' => some isSpaceChar
  | 'S' => some fun c => !isSpaceChar c
  | _ => none

/-- The start of a text. -/
def startPlace (how : Notation) : Regex := .place fun a _ =>
  a.isNone || (how.byLine && a == some '\n')

/-- The end of a text. -/
def endPlace (how : Notation) : Regex := .place fun _ b =>
  b.isNone || (how.byLine && b == some '\n')

/-- One character of a class. -/
def oneOf (how : Notation) (holds : Char → Bool) : Regex :=
  if how.ignoresCase then .one fun c => holds c || holds c.toUpper || holds c.toLower
  else .one holds

/-- The text in brackets that a sign opens, up to the same sign and a bracket. -/
def inner? (sign : Char) : List Char → Option (List Char × List Char)
  | [] => none
  | c :: ']' :: r =>
    if c == sign then some ([], r)
    else (inner? sign (']' :: r)).map fun (t, r) => (c :: t, r)
  | c :: r => (inner? sign r).map fun (t, r) => (c :: t, r)

/-- A part of what stands in brackets. -/
inductive Member where
  | char (c : Char)
  | kind (holds : Char → Bool)

/-- What is said about brackets that are not closed. -/
def unclosed : String := "Unmatched [, [\x5e, [:, [., or [="

/-- The first member of what stands in brackets, and what follows it. The flag tells whether a dash
may be the member. -/
def member (dash : Bool) (cs : List Char) : Except String (Member × List Char) :=
  let single (sign : Char) (r : List Char) (make : Char → Member) :
      Except String (Member × List Char) :=
    match inner? sign r with
    | some ([c], r) => .ok (make c, r)
    | some _ => .error "Invalid collation character"
    | none => .error unclosed
  match cs with
  | [] => .error unclosed
  | '[' :: '.' :: r => single '.' r .char
  | '[' :: '=' :: r => single '=' r fun c => .kind (· == c)
  | '[' :: ':' :: r =>
    match inner? ':' r with
    | none => .error unclosed
    | some (name, r) =>
      match Shell.Pattern.classes.lookup (String.ofList name) with
      | some holds => .ok (.kind holds, r)
      | none => .error "Invalid character class name"
  | '-' :: r =>
    if dash || r.head? == some ']' then .ok (.char '-', r) else .error "Invalid range end"
  | c :: r => .ok (.char c, r)

/-- The members of what stands in brackets, up to the one that closes them. The flag tells whether
they are the first ones. The bound is the length of the text. -/
def members (how : Notation) :
    Nat → Bool → List Char → Except String ((Char → Bool) × List Char)
  | 0, _, _ => .error unclosed
  | n + 1, first, cs =>
    let join (holds : Char → Bool) (r : List Char) : Except String ((Char → Bool) × List Char) :=
      match r with
      | [] => .error unclosed
      | ']' :: r => .ok (holds, r)
      | r =>
        match members how n false r with
        | .ok (more, r) => .ok (fun c => holds c || more c, r)
        | .error message => .error message
    match member first cs with
    | .error message => .error message
    | .ok (.kind holds, r) => join holds r
    | .ok (.char low, '-' :: []) => join (· == low) ['-']
    | .ok (.char low, '-' :: ']' :: r) => join (· == low) ('-' :: ']' :: r)
    | .ok (.char low, '-' :: r) =>
      match member true r with
      | .error message => .error message
      | .ok (.kind _, _) => .error "Invalid range end"
      | .ok (.char high, r) =>
        let isEmpty :=
          if how.ignoresCase then high.toUpper < low.toUpper else high < low
        if isEmpty && !how.dialect.emptyRanges then .error "Invalid range end"
        else join (fun c => low ≤ c && c ≤ high) r
    | .ok (.char c, r) => join (· == c) r

/-- What stands in brackets, after the first of them. -/
def bracket (how : Notation) (cs : List Char) : Except String (Regex × List Char) :=
  let (negated, cs) := match cs with
    | '^' :: r => (true, r)
    | cs => (false, cs)
  if cs.isEmpty then .error "Invalid regular expression"
  else
    match members how (cs.length + 1) true cs with
    | .error message => .error message
    | .ok (holds, r) =>
      let holds' : Char → Bool := fun c =>
        holds c || (how.ignoresCase && (holds c.toUpper || holds c.toLower))
      .ok (.one fun c => holds' c != negated, r)

/-- Whether what stands in brackets looks like the name of a class. -/
def looksLikeClass (cs : List Char) : Bool :=
  let cs := if cs.head? == some '^' then cs.drop 1 else cs
  let body := cs.takeWhile (· != ']')
  1 < body.length && body.head? == some ':' && body.getLast? == some ':' &&
    body.any (· != ':') && !body.contains '-' && !body.contains '['

/-! ### Bounds -/

/-- How often something may be repeated. -/
def repetitionLimit : Nat := 32767

/-- A number of a bound: none is given, or it is malformed. -/
inductive Count where
  | missing
  | malformed
  | number (n : Nat)
deriving DecidableEq, Repr

/-- What ends a number of a bound. -/
inductive Stop where
  | closed
  | comma
  | atEnd
deriving DecidableEq, Repr

/-- A number of a bound, what ends it, and what follows. -/
def count (bare : Bool) : Count → List Char → Count × Stop × List Char
  | _, [] => (.malformed, .atEnd, [])
  | k, '\\' :: '}' :: r => if bare then count bare .malformed r else (k, .closed, r)
  | k, c :: r =>
    if c == '}' && bare then (k, .closed, r)
    else if c == ',' then (k, .comma, r)
    else if c.isDigit then
      let digit := c.toNat - '0'.toNat
      match k with
      | .missing => count bare (.number digit) r
      | .number n => count bare (.number (min (repetitionLimit + 1) (n * 10 + digit))) r
      | .malformed => count bare .malformed r
    else count bare .malformed r

/-- What braces come to. -/
inductive Bounds where
  | times (least : Nat) (most : Option Nat) (rest : List Char)
  /-- No bounds at all. -/
  | none
  | refused (message : String)

/-- The bounds of a repetition, after the brace that opens them. -/
def bounds (d : Dialect) (cs : List Char) : Bounds :=
  let wrong := "Invalid content of \\\x7b\\\x7d"
  let spoiled (stop : Stop) : Bounds :=
    if d.looseBraces then .none
    else .refused (if stop == .atEnd then "Unmatched \\\x7b" else wrong)
  let made (least : Nat) (most : Option Nat) (stop : Stop) (r : List Char) : Bounds :=
    if most.any (· < least) || stop != .closed then .refused wrong
    else if repetitionLimit < most.getD least then .refused "Regular expression too big"
    else .times least most r
  let upper (least : Nat) (r : List Char) : Bounds :=
    match count d.bare .missing r with
    | (.malformed, stop, _) => spoiled stop
    | (.missing, stop, r) => made least Option.none stop r
    | (.number n, stop, r) => made least (some n) stop r
  match count d.bare .missing cs with
  | (.malformed, stop, _) => spoiled stop
  | (.missing, .comma, r) => upper 0 r
  | (.missing, _, _) => .refused wrong
  | (.number n, .comma, r) => upper n r
  | (.number n, stop, r) => made n (some n) stop r

/-! ### Signs -/

/-- A sign with a meaning, or a character. -/
inductive Sign where
  | stop
  | opening
  | closing
  | choice
  | times (sign : Char)
  | brace
  | char (c : Char)
  | kind (holds : Char → Bool)
  | place (regex : Regex)
  | bracket
  | back (number : Nat)
  | trailing

/-- What a character means that has a meaning in one of both notations. -/
def special? (c : Char) : Option Sign :=
  match c with
  | '+' => some (.times '+')
  | '?' => some (.times '?')
  | '|' => some .choice
  | '(' => some .opening
  | ')' => some .closing
  | '{' => some .brace
  | _ => none

/-- Whether a character has its meaning without a backslash. -/
def isBare (d : Dialect) (c : Char) : Bool :=
  if c == '+' || c == '?' then d.bareCounts else d.bare

/-- What a character means that stands with a backslash or without one. -/
def meaning (d : Dialect) (escaped : Bool) (c : Char) : Sign :=
  match special? c with
  | some sign =>
    if c == '{' && !d.bounds then .char c
    else if isBare d c != escaped then sign
    else .char c
  | none => .char c

/-- The first sign of a text and what follows it. The flag tells whether a branch begins there. -/
def sign (how : Notation) (here : Bool) (cs : List Char) : Sign × List Char :=
  let d := how.dialect
  match cs with
  | [] => (.stop, [])
  | '\\' :: [] => (.trailing, [])
  | '\\' :: c :: r =>
    if c.isDigit && c != '0' then (.back (c.toNat - '0'.toNat), r)
    else
      match placeOf? c, classOf? c with
      | some spot, _ => (.place spot, r)
      | none, some holds => (.kind holds, r)
      | none, none => (meaning d true c, r)
  | '.' :: r => (.kind fun _ => true, r)
  | '[' :: r => (.bracket, r)
  | '*' :: r => (.times '*', r)
  | '^' :: r => if d.bare || here then (.place (startPlace how), r) else (.char '^', r)
  | '$' :: r =>
    let last := match r with
      | [] => true
      | '\\' :: ')' :: _ => true
      | '\\' :: '|' :: _ => true
      | _ => false
    if d.bare || last then (.place (endPlace how), r) else (.char '$', r)
  | c :: r => (meaning d false c, r)

/-- What reading has come to: the rest of the text, the number of the last group, and whether
something in brackets looks like the name of a class. -/
structure Progress where
  rest : List Char
  groups : Nat
  looks : Bool

/-- The parts of a branch in one. -/
def joined (parts : List Regex) : Regex := parts.foldl (fun r p => .both p r) .empty

/-- Repeats the last part of a branch. -/
def repeatLast (least : Nat) (most : Option Nat) : List Regex → List Regex
  | [] => [.empty]
  | p :: parts => .repeated least most p :: parts

/-- What is said about a repetition of nothing. -/
def nothingRepeated : String := "Invalid preceding regular expression"

/-- Whether bounds or a star come next, where they would repeat a repetition. -/
def repeatsAgain (how : Notation) (rest : List Char) : Bool :=
  match (sign how false rest).1 with
  | .times '*' => true
  | .brace => true
  | _ => false

/-- An expression up to its end or a sign that closes a group, given the numbers of the groups that
are open, the branches that are complete and the parts of the branch that has been begun, last ones
first. The first flag tells whether a branch begins here, the second one whether there is nothing
that can be repeated. The bound is the length of the text. -/
def expression (how : Notation) : Nat → List Nat → Option Regex → List Regex → Bool → Bool →
    Progress → Except String (Regex × Progress)
  | 0, _, _, _, _, _, p => .ok (.empty, p)
  | n + 1, opened, branches, parts, here, nothing, p =>
    let branch := joined parts
    let whole := match branches with
      | some b => .either b branch
      | none => branch
    let (s, r) := sign how here p.rest
    let next := { p with rest := r }
    let add (regex : Regex) (p : Progress) : Except String (Regex × Progress) :=
      expression how n opened branches (regex :: parts) false false p
    let literal (c : Char) : Except String (Regex × Progress) :=
      add (oneOf how (· == c)) next
    let bare (c : Char) : Except String (Regex × Progress) :=
      match how.dialect.leading with
      | .literal => literal c
      | .skipped => expression how n opened branches parts false true next
      | .refused => .error nothingRepeated
    let times (least : Nat) (most : Option Nat) (r : List Char) :
        Except String (Regex × Progress) :=
      if how.dialect.strictBounds && repeatsAgain how r then .error nothingRepeated
      else expression how n opened branches (repeatLast least most parts) false false
        { p with rest := r }
    match s with
    | .stop => if opened.isEmpty then .ok (whole, next) else .error "Unmatched ( or \\("
    | .closing =>
      if !opened.isEmpty then .ok (whole, next)
      else if how.dialect.strayClosing then literal ')'
      else .error "Unmatched ) or \\)"
    | .choice => expression how n opened (some whole) [] true true next
    | .opening =>
      let number := p.groups + 1
      let inner := { next with groups := number }
      match expression how n (number :: opened) none [] true true inner with
      | .error message => .error message
      -- A group takes what is left of the text within its own bound.
      | .ok (body, q) => add (.group number body) q
    | .times c =>
      if nothing then bare c
      else times (if c == '+' then 1 else 0) (if c == '?' then some 1 else none) r
    | .brace =>
      if nothing then
        if how.dialect.strictBounds then .error nothingRepeated
        else
          match how.dialect.leading, bounds how.dialect r with
          | .skipped, .times _ _ r =>
            expression how n opened branches parts false false { p with rest := r }
          | .skipped, _ => literal '{'
          | _, _ => bare '{'
      else
        match bounds how.dialect r with
        | .times least most r => times least most r
        | .none => literal '{'
        | .refused message => .error message
    | .char c => literal c
    | .kind holds => add (.one holds) next
    | .place regex =>
      let nothing := if how.dialect.repeatsPlaces then !how.dialect.bare && nothing else true
      expression how n opened branches (regex :: parts) false nothing next
    | .back number =>
      if number ≤ p.groups && !opened.contains number then add (.back number) next
      else .error "Invalid back reference"
    | .bracket =>
      match bracket how r with
      | .error message => .error message
      | .ok (regex, rest) => add regex { p with rest, looks := p.looks || looksLikeClass r }
    | .trailing => .error "Trailing backslash"

end Regex

/-- An expression that has been read. -/
structure Matcher where
  regex : Regex
  groups : Nat
  /-- Whether groups tell places apart. -/
  exact : Bool
  /-- Whether something in brackets looks like the name of a class that should stand in two pairs
  of them. -/
  looksWrong : Bool

/-- A part of a text that matches, and the parts that the groups have matched. -/
structure Found where
  start : Nat
  stop : Nat
  groups : List (Nat × Nat × Nat)
deriving Repr

namespace Matcher

/-- Reads an expression. -/
def ofText (how : Regex.Notation) (text : String) : Except String Matcher :=
  let cs := text.toList
  match Regex.expression how (2 * cs.length + 2) [] none [] true true ⟨cs, 0, false⟩ with
  | .ok (regex, p) => .ok ⟨regex, p.groups, regex.refers, p.looks⟩
  | .error message => .error message

/-- What is said about brackets that look like the name of a class. -/
def wrongClass : String := "character class syntax is [[:space:]], not [:space:]"

/-- An expression that matches a text as it stands. -/
def ofPlain (ignoresCase : Bool) (text : String) : Matcher :=
  let how : Regex.Notation := ⟨.basic, ignoresCase, false⟩
  ⟨Regex.joined (text.toList.reverse.map fun c => Regex.oneOf how (· == c)), 0, false, false⟩

/-- The parts of a text that match and begin at a place, the longest first. -/
def startingAt (m : Matcher) (text : Array Char) (start : Nat) : List Found :=
  (m.regex.ends text m.exact ⟨start, []⟩).map fun r => ⟨start, r.place, r.groups⟩

/-- The first part of a text that matches, from a place on, and passes a test. The bound is the
number of places. -/
def search (m : Matcher) (text : Array Char) (passes : Found → Bool) : Nat → Nat → Option Found
  | 0, _ => none
  | n + 1, start =>
    match (m.startingAt text start).find? passes with
    | some found => some found
    | none => if start < text.size then search m text passes n (start + 1) else none

/-- The first part of a text that matches, from a place on. -/
def find? (m : Matcher) (text : Array Char) (start : Nat) : Option Found :=
  m.search text (fun _ => true) (text.size + 1 - start) start

end Matcher

namespace Found

/-- The text of a part. -/
def text (f : Found) (whole : Array Char) : String :=
  String.ofList (whole.extract f.start f.stop).toList

/-- The text that a group has matched. -/
def group? (f : Found) (whole : Array Char) (number : Nat) : Option String :=
  if number == 0 then some (f.text whole)
  else (f.groups.lookup number).map fun (a, b) => String.ofList (whole.extract a b).toList

end Found

end EnvProfiles
