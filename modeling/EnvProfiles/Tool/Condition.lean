import EnvProfiles.Machine.Disk
import EnvProfiles.Shell.Arithmetic
import EnvProfiles.Tool.Quote

/-!
# Conditions

The conditions that a script can ask about texts, numbers and files. The command
of the shell takes its words apart at the operators whatever they stand for; the
program of the same name first goes by the number of the words, so that a text
may look like an operator.

## Main definitions

* `Condition.Facts`: What is known about the files.
* `Condition.holdsInShell`: Whether a condition holds to the shell.
* `Condition.holds`: Whether a condition holds to the program.
-/

namespace EnvProfiles.Condition

/-- What is known about the files. -/
structure Facts where
  disk : Disk
  base : Location

/-- Whether a condition holds, or what is wrong with it. -/
abbrev Answer := Except String Bool

/-! ### Files -/

/-- The node that a path leads to, which is a link if it is not to be followed. -/
def node? (facts : Facts) (follow : Bool) (path : String) : Option Node :=
  match if follow then facts.disk.find facts.base path else facts.disk.findName facts.base path with
  | .ok (_, node) => some node
  | .error _ => none

/-- What a letter asks of a file. -/
def fileHolds (facts : Facts) (letter : Char) (path : String) : Bool :=
  let ask (follow : Bool) (p : Node → Bool) : Bool := (node? facts follow path).any p
  let hasBits (bits : Nat) : Bool := ask true fun n => n.mode &&& bits != 0
  match letter with
  | 'e' => ask true fun _ => true
  | 'r' => ask true fun _ => true
  | 'w' => ask true fun _ => true
  | 'O' => ask true fun _ => true
  | 'G' => ask true fun _ => true
  | 'N' => ask true fun _ => true
  | 'x' => ask true fun n => n.content == .directory || Disk.isRunnable n
  | 'd' => ask true fun n => n.content == .directory
  | 'f' => ask true fun n => match n.content with
    | .file _ => true
    | .program _ => true
    | _ => false
  | 's' => ask true fun n => match n.content with
    | .file octets => octets != ""
    | .program _ => true
    | .directory => true
    | _ => false
  | 'c' => ask true fun n => match n.content with
    | .device (.descriptor _) => false
    | .device _ => true
    | _ => false
  | 'h' => ask false fun n => match n.content with
    | .link _ => true
    | _ => false
  | 'L' => ask false fun n => match n.content with
    | .link _ => true
    | _ => false
  | 'u' => hasBits 0o4000
  | 'g' => hasBits 0o2000
  | 'k' => hasBits 0o1000
  | _ => false

/-- Whether two paths lead to the same file. -/
def sameFile (facts : Facts) (a b : String) : Bool :=
  match facts.disk.find facts.base a, facts.disk.find facts.base b with
  | .ok (p, _), .ok (q, _) => p == q ||
    ((facts.disk.number? p).isSome && facts.disk.number? p == facts.disk.number? q)
  | _, _ => false

/-- Whether one file was changed after another; a file that is missing never was. -/
def isNewer (facts : Facts) (a b : String) : Bool :=
  match node? facts true a, node? facts true b with
  | some x, some y => y.changed < x.changed
  | some _, none => true
  | none, _ => false

/-- How two numbers are compared. -/
def comparison? : String → Option (Int → Int → Bool)
  | "-eq" => some fun a b => a == b
  | "-ne" => some fun a b => a != b
  | "-lt" => some fun a b => a < b
  | "-le" => some fun a b => a ≤ b
  | "-gt" => some fun a b => b < a
  | "-ge" => some fun a b => b ≤ a
  | _ => none

/-- A whole number in decimal digits with white space around it. -/
def decimal? (text : String) : Option Int :=
  let body := text.toList.dropWhile Shell.Arithmetic.isSpace
  let (negative, body) := match body with
    | '-' :: r => (true, r)
    | '+' :: r => (false, r)
    | r => (false, r)
  let digits := body.takeWhile Char.isDigit
  if digits.isEmpty || !(body.dropWhile Char.isDigit).all Shell.Arithmetic.isSpace then none
  else
    let n := Shell.Arithmetic.value 10 digits
    some (if negative then -(n : Int) else n)

/-- The meaning of a sign between two words that compares no numbers. -/
def textComparison? (facts : Facts) : String → Option (String → String → Bool)
  | "=" => some fun a b => a == b
  | "!=" => some fun a b => a != b
  | "-nt" => some fun a b => isNewer facts a b
  | "-ot" => some fun a b => isNewer facts b a
  | "-ef" => some fun a b => sameFile facts a b
  | _ => none

/-! ### The command of the shell -/

/-- The kinds of words of a condition. -/
inductive Kind where
  | nothing
  | operand
  | unary
  | binary
  | negation
  | both
  | either
  | opening
  | closing
deriving DecidableEq, Repr

/-- The kind of a word that may be an operator. -/
def operatorKind (word : String) : Kind :=
  if ["-r", "-w", "-x", "-e", "-f", "-d", "-c", "-b", "-p", "-u", "-g", "-k", "-s", "-t", "-z",
      "-n", "-h", "-O", "-G", "-L", "-S"].contains word then .unary
  else if ["=", "!=", "<", ">", "-eq", "-ne", "-ge", "-gt", "-le", "-lt", "-nt", "-ot",
      "-ef"].contains word then .binary
  else
    match word with
    | "!" => .negation
    | "-a" => .both
    | "-o" => .either
    | "(" => .opening
    | ")" => .closing
    | _ => .operand

/-- The kind of the first of some words. An operator that nothing can follow is a text. -/
def kindOf (words : List String) : Kind :=
  match words with
  | [] => .nothing
  | word :: r =>
    match operatorKind word with
    | .unary =>
      let isText : Bool := match r with
        | [] => true
        | [_] => false
        | next :: _ => operatorKind next == .binary
      if isText then .operand else .unary
    | .opening => if r.isEmpty then .operand else .opening
    | kind => kind

/-- The number that a word says to the shell. -/
def shellNumber (word : String) : Except String Int :=
  match decimal? word with
  | some n => if fitsSigned 64 n then .ok n else .error ("Illegal number: " ++ word)
  | none => .error ("Illegal number: " ++ word)

/-- The meaning of a sign between two words to the shell. -/
def shellBinary (facts : Facts) (a sign b : String) : Answer :=
  match comparison? sign with
  | some compare => do
    let x ← shellNumber a
    let y ← shellNumber b
    return compare x y
  | none =>
    match sign with
    | "<" => .ok (a < b)
    | ">" => .ok (b < a)
    | _ => .ok ((textComparison? facts sign).any fun f => f a b)

/-- The meaning of a sign before a word to the shell. -/
def shellUnary (facts : Facts) (sign a : String) : Answer :=
  match sign with
  | "-z" => .ok (a == "")
  | "-n" => .ok (a != "")
  | "-t" => (shellNumber a).map fun _ => false
  | _ => .ok (fileHolds facts (sign.toList.getLast?.getD ' ') a)

mutual

/-- A condition that stands by itself, given the kind of its first word. The words that are returned
begin with the last one that belongs to it. -/
def primary (facts : Facts) : Nat → Kind → List String → Except String (Bool × List String)
  | 0, _, _ => .error "too many words"
  | n + 1, kind, words =>
    match kind, words with
    | .nothing, _ => .ok (false, words)
    | .opening, _ :: r =>
      if kindOf r == .closing then .ok (false, r)
      else
        match alternatives facts n (kindOf r) r with
        | .error message => .error message
        | .ok (holds, r) =>
          let r := r.drop 1
          if kindOf r == .closing then .ok (holds, r) else .error "closing paren expected"
    | .unary, sign :: r =>
      match r with
      | [] => .error (sign ++ ": argument expected")
      | a :: _ => (shellUnary facts sign a).map fun holds => (holds, r)
    | _, a :: sign :: r =>
      if kindOf (sign :: r) == .binary then
        match r with
        | [] => .error (sign ++ ": argument expected")
        | b :: _ => (shellBinary facts a sign b).map fun holds => (holds, r)
      else .ok (a != "", words)
    | _, [a] => .ok (a != "", words)
    | _, [] => .ok (false, words)

/-- A condition that may be negated. -/
def negatable (facts : Facts) : Nat → Kind → List String → Except String (Bool × List String)
  | 0, _, _ => .error "too many words"
  | n + 1, kind, words =>
    if kind == .negation then
      let r := words.drop 1
      match negatable facts n (kindOf r) (if r.isEmpty then words else r) with
      | .ok (holds, r) => .ok (!holds, r)
      | .error message => .error message
    else primary facts n kind words

/-- Conditions that all have to hold. -/
def conjunction (facts : Facts) : Nat → Kind → List String → Except String (Bool × List String)
  | 0, _, _ => .error "too many words"
  | n + 1, kind, words =>
    match negatable facts n kind words with
    | .error message => .error message
    | .ok (a, r) =>
      if kindOf (r.drop 1) == .both then
        match conjunction facts n (kindOf (r.drop 2)) (r.drop 2) with
        | .error message => .error message
        | .ok (b, r) => .ok (a && b, r)
      else .ok (a, r)

/-- Conditions of which one has to hold. -/
def alternatives (facts : Facts) : Nat → Kind → List String → Except String (Bool × List String)
  | 0, _, _ => .error "too many words"
  | n + 1, kind, words =>
    match conjunction facts n kind words with
    | .error message => .error message
    | .ok (a, r) =>
      if kindOf (r.drop 1) == .either then
        match alternatives facts n (kindOf (r.drop 2)) (r.drop 2) with
        | .error message => .error message
        | .ok (b, r) => .ok (a || b, r)
      else .ok (a, r)

end

/-- Whether a condition holds to the shell, given whether it is to be negated. -/
def shellFrom (facts : Facts) (bound : Nat) : Bool → List String → Answer
  | negated, words =>
    let evaluate (kind : Kind) (words : List String) : Answer :=
      match alternatives facts bound kind words with
      | .error message => .error message
      | .ok (holds, r) =>
        match r with
        | a :: _ :: _ =>
          .error (if a == "" then "unexpected operator" else a ++ ": unexpected operator")
        | _ => .ok (holds != negated)
    let few := words.length == 3 || words.length == 4
    if words.length == 3 && (words[1]?.any fun w => operatorKind w == .binary) then
      evaluate .operand words
    else
      match words with
      | [] => .ok negated
      | first :: r =>
        if few && first == "(" && r.getLast? == some ")" then
          evaluate (kindOf r.dropLast) r.dropLast
        else if few && first == "!" then shellFrom facts bound (!negated) r
        else evaluate (kindOf words) words

/-- Whether a condition holds to the shell. -/
def holdsInShell (facts : Facts) (words : List String) : Answer :=
  shellFrom facts (4 * words.length + 8) false words

/-! ### The program -/

/-- The letters that stand before a word. -/
def unaryLetters : List Char := "bcdefgGhkLNnOprsStuwxz".toList

/-- Whether a word may stand between two others. -/
def isBinary (facts : Facts) (word : String) : Bool :=
  word == "==" || (comparison? word).isSome || (textComparison? facts word).isSome

/-- The number that a word says to the program. -/
def programNumber (word : String) : Except String Int :=
  match decimal? word with
  | some n => .ok n
  | none => .error ("invalid integer " ++ Quote.always word)

/-- The meaning of a sign between two words to the program. -/
def binary (facts : Facts) (a sign b : String) : Answer :=
  match comparison? sign with
  | some compare => do
    let x ← programNumber a
    let y ← programNumber b
    return compare x y
  | none =>
    if sign == "==" then .ok (a == b)
    else .ok ((textComparison? facts sign).any fun f => f a b)

/-- The mistake of a condition in which something is missing after a word. -/
def missingAfter (word : String) : String := "missing argument after " ++ Quote.always word

/-- The meaning of a sign before a word to the program. -/
def unary (facts : Facts) (sign : String) (r : List String) : Answer :=
  let letter := sign.toList.getLast?.getD ' '
  if !unaryLetters.contains letter then
    .error (Quote.always sign ++ ": unary operator expected")
  else
    match r with
    | [] => .error (missingAfter sign)
    | a :: _ =>
      match letter with
      | 'n' => .ok (a != "")
      | 'z' => .ok (a == "")
      | 't' => (programNumber a).map fun _ => false
      | _ => .ok (fileHolds facts letter a)

/-- Whether a word is a dash and one more character. -/
def isSwitch (word : String) : Bool := word.length == 2 && "-".isPrefixOf word

mutual

/-- A condition of a known number of words, and the words that follow it. The last of the words
before them is given for messages. -/
def ofLength (facts : Facts) : Nat → String → Nat → List String →
    Except String (Bool × List String)
  | 0, _, _, _ => .error "too many words"
  | n + 1, last, count, words =>
    let negated (count : Nat) (r : List String) : Except String (Bool × List String) :=
      if r.isEmpty then .error (missingAfter "!")
      else (ofLength facts n "!" count r).map fun (holds, r) => (!holds, r)
    match count, words with
    | 1, a :: r => .ok (a != "", r)
    | 2, a :: b :: r =>
      if a == "!" then .ok (b == "", r)
      else if isSwitch a then (unary facts a (b :: r)).map fun holds => (holds, r)
      else .error (missingAfter b)
    | 3, a :: sign :: b :: r =>
      if isBinary facts sign then (binary facts a sign b).map fun holds => (holds, r)
      else if a == "!" then negated 2 (sign :: b :: r)
      else if a == "(" && b == ")" then .ok (sign != "", r)
      else if sign == "-a" || sign == "-o" then anyOf facts n last words
      else .error (Quote.always sign ++ ": binary operator expected")
    | 4, a :: b :: c :: d :: r =>
      if a == "!" then negated 3 (b :: c :: d :: r)
      else if a == "(" && d == ")" then
        match ofLength facts n "(" 2 [b, c] with
        | .ok (holds, _) => .ok (holds, r)
        | .error message => .error message
      else anyOf facts n last words
    | _, _ => anyOf facts n last words

/-- Conditions of which one has to hold. -/
def anyOf (facts : Facts) : Nat → String → List String → Except String (Bool × List String)
  | 0, _, _ => .error "too many words"
  | n + 1, last, words =>
    match allOf facts n last words with
    | .ok (a, "-o" :: r) => (anyOf facts n "-o" r).map fun (b, r) => (a || b, r)
    | other => other

/-- Conditions that all have to hold. -/
def allOf (facts : Facts) : Nat → String → List String → Except String (Bool × List String)
  | 0, _, _ => .error "too many words"
  | n + 1, last, words =>
    match term facts n last words with
    | .ok (a, "-a" :: r) => (allOf facts n "-a" r).map fun (b, r) => (a && b, r)
    | other => other

/-- A condition that stands by itself. -/
def term (facts : Facts) : Nat → String → List String → Except String (Bool × List String)
  | 0, _, _ => .error "too many words"
  | n + 1, last, words =>
    match words with
    | [] => .error (missingAfter last)
    | "!" :: r => (term facts n "!" r).map fun (holds, r) => (!holds, r)
    | "(" :: r =>
      if r.isEmpty then .error (missingAfter "(")
      else
        -- The words up to a parenthesis that closes, if it is near.
        let inner := (r.drop 1).takeWhile (· != ")")
        let count := if inner.length < 4 && inner.length + 1 < r.length then inner.length + 1
          else r.length
        match ofLength facts n "(" count r with
        | .error message => .error message
        | .ok (holds, ")" :: r) => .ok (holds, r)
        | .ok (_, []) => .error (Quote.always ")" ++ " expected")
        | .ok (_, found :: _) =>
          .error (Quote.always ")" ++ " expected, found " ++ Quote.always found)
    | a :: r =>
      match r with
      | sign :: b :: rest =>
        if isBinary facts sign then (binary facts a sign b).map fun holds => (holds, rest)
        else single a r
      | _ => single a r
where
  single (a : String) (r : List String) : Except String (Bool × List String) :=
    if isSwitch a then (unary facts a r).map fun holds => (holds, r.drop 1)
    else .ok (a != "", r)

end

/-- Whether a condition holds to the program. -/
def holds (facts : Facts) (words : List String) : Answer :=
  if words.isEmpty then .ok false
  else
    match ofLength facts (4 * words.length + 8) "" words.length words with
    | .error message => .error message
    | .ok (answer, []) => .ok answer
    | .ok (_, extra :: _) => .error ("extra argument " ++ Quote.always extra)

end EnvProfiles.Condition
