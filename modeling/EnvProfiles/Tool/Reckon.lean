import EnvProfiles.Tool.Lines
import EnvProfiles.Tool.Printf
import EnvProfiles.Tool.Regex

/-!
# Reckoning

Programs that reckon with whole and decimal numbers of any size: an expression of
words, whose value is both written and told by the status, rows of numbers, and
prime factors.

## Main definitions

* `Reckon.choice`: The value of an expression, and the words after it.
* `Tool.expr`: Shows the value of an expression.
* `Tool.seq`: Shows numbers one after the other.
* `Tool.factor`: Shows the prime factors of numbers.
-/

namespace EnvProfiles

namespace Reckon

/-- A mistake in an expression: the status and what is said about it. -/
abbrev Mistake := Nat × String

/-- What is left to be read, and the words before it, last one first. -/
structure Words where
  read : List String
  rest : List String

/-- A whole number. -/
def whole? (text : String) : Option Int :=
  match text.toList with
  | '-' :: ds => if !ds.isEmpty && ds.all Char.isDigit then
      (String.ofList ds).toNat?.map fun n => -(n : Int) else none
  | ds => if !ds.isEmpty && ds.all Char.isDigit then text.toNat?.map fun n => (n : Int) else none

/-- Whether a value counts as nothing: no text, or zero. -/
def isNull (value : String) : Bool :=
  value == "" || (match value.toList with
    | '-' :: ds => !ds.isEmpty && ds.all (· == '0')
    | ds => ds.all (· == '0'))

/-- A reader of a part of an expression. -/
abbrev Reader := Words → Except Mistake (String × Words)

/-- Says that a word is missing. -/
def missing (w : Words) : Mistake :=
  (2, match w.read with
    | last :: _ => "syntax error: missing argument after " ++ Quote.always last
    | [] => "missing operand")

/-- The value of matching a text with an expression from its start: what the first group has
matched, or how long the match is. -/
def matchText (text pattern : String) : Except Mistake String :=
  match Matcher.ofText ⟨.forWords, false, false⟩ pattern with
  | .error message => .error (2, message)
  | .ok m =>
    let cs := text.toList.toArray
    match (m.startingAt cs 0).head? with
    | some found =>
      if 0 < m.groups then .ok ((found.group? cs 1).getD "") else .ok (toString found.stop)
    | none => .ok (if 0 < m.groups then "" else "0")

/-- The operators of every rank but those for matching, from the weakest on. -/
def operators : List (List String) :=
  [["<", "<=", "=", "==", "!=", ">=", ">"], ["+", "-"], ["*", "/", "%"]]

/-- What an operator makes of two values. -/
def apply (sign a b : String) : Except Mistake String :=
  let truth (t : Bool) : Except Mistake String := .ok (if t then "1" else "0")
  let compared (o : Ordering) : Except Mistake String :=
    match sign with
    | "<" => truth (o == .lt)
    | "<=" => truth (o != .gt)
    | "!=" => truth (o != .eq)
    | ">=" => truth (o != .lt)
    | ">" => truth (o == .gt)
    | _ => truth (o == .eq)
  if (operators.headD []).contains sign then
    match whole? a, whole? b with
    | some n, some m => compared (compare n m)
    | _, _ => compared (compareOfLessAndEq a b)
  else
    match whole? a, whole? b with
    | some n, some m =>
      match sign with
      | "+" => .ok (toString (n + m))
      | "-" => .ok (toString (n - m))
      | "*" => .ok (toString (n * m))
      | "/" => if m == 0 then .error (2, "division by zero") else .ok (toString (n.tdiv m))
      | _ => if m == 0 then .error (2, "division by zero") else .ok (toString (n.tmod m))
    | _, _ => .error (2, "non-integer argument")

/-- Reads operators of a rank and what follows them. The bound is the number of words. -/
def chain (next : Reader) (signs : List String) (use : String → String → String →
    Except Mistake String) : Nat → String → Reader
  | 0, value, w => .ok (value, w)
  | n + 1, value, w =>
    match w.rest with
    | sign :: r =>
      if signs.contains sign then
        match next ⟨sign :: w.read, r⟩ with
        | .error e => .error e
        | .ok (other, w) =>
          match use sign value other with
          | .error e => .error e
          | .ok value => chain next signs use n value w
      else .ok (value, w)
    | [] => .ok (value, w)

/-- A part of a text, by the place at which it begins and its length. -/
def part (text start length : String) : String :=
  match whole? start, whole? length with
  | some s, some l =>
    if s ≤ 0 || l ≤ 0 then ""
    else String.ofList ((text.toList.drop (s.toNat - 1)).take l.toNat)
  | _, _ => ""

mutual

/-- A value that may stand alone. -/
def single : Nat → Reader
  | 0, w => .error (missing w)
  | n + 1, w =>
    match w.rest with
    | [] => .error (missing w)
    | "(" :: r =>
      match choice n ⟨"(" :: w.read, r⟩ with
      | .error e => .error e
      | .ok (value, w) =>
        match w.rest with
        | ")" :: r => .ok (value, ⟨")" :: w.read, r⟩)
        | other :: _ => .error (2, "syntax error: expecting ')' instead of " ++ Quote.always other)
        | [] => .error (2, "syntax error: expecting ')' after " ++
            Quote.always (w.read.head?.getD ""))
    | ")" :: _ => .error (2, "syntax error: unexpected ')'")
    | word :: r => .ok (word, ⟨word :: w.read, r⟩)

/-- A value, or a function of values. -/
def called : Nat → Reader
  | 0, w => .error (missing w)
  | n + 1, w =>
    let next (name : String) (r : List String) : Words := ⟨name :: w.read, r⟩
    match w.rest with
    | "+" :: r =>
      match r with
      | [] => .error (missing (next "+" r))
      | word :: r => .ok (word, ⟨word :: "+" :: w.read, r⟩)
    | "length" :: r => do
      let (text, w) ← called n (next "length" r)
      return (toString text.length, w)
    | "match" :: r => do
      let (text, w) ← called n (next "match" r)
      let (pattern, w) ← called n w
      return (← matchText text pattern, w)
    | "index" :: r => do
      let (text, w) ← called n (next "index" r)
      let (chars, w) ← called n w
      let before := text.toList.takeWhile fun c => !chars.toList.contains c
      return (toString (if before.length < text.length then before.length + 1 else 0), w)
    | "substr" :: r => do
      let (text, w) ← called n (next "substr" r)
      let (start, w) ← called n w
      let (length, w) ← called n w
      return (part text start length, w)
    | _ => single n w

/-- Values that are matched with expressions. -/
def matched : Nat → Reader
  | 0, w => .error (missing w)
  | n + 1, w => do
    let (value, w) ← called n w
    chain (called n) [":"] (fun _ a b => matchText a b) w.rest.length value w

/-- Values joined by operators, from a rank on. -/
def joined : Nat → List (List String) → Reader
  | 0, _, w => .error (missing w)
  | n + 1, [], w => matched n w
  | n + 1, signs :: ranks, w => do
    let (value, w) ← joined n ranks w
    chain (joined n ranks) signs apply w.rest.length value w

/-- Values of which both have to count. -/
def conjunction : Nat → Reader
  | 0, w => .error (missing w)
  | n + 1, w => do
    let (value, w) ← joined n operators w
    chain (joined n operators) ["&"]
      (fun _ a b => .ok (if isNull a || isNull b then "0" else a)) w.rest.length value w

/-- Values of which the first one that counts is taken. -/
def choice : Nat → Reader
  | 0, w => .error (missing w)
  | n + 1, w => do
    let (value, w) ← conjunction n w
    chain (conjunction n) ["|"]
      (fun _ a b => .ok (if !isNull a then a else if isNull b then "0" else b))
      w.rest.length value w

end

/-! ### Decimal numbers -/

/-- A decimal number: a count of its smallest part, and how many places it has. -/
structure Decimal where
  count : Int
  places : Nat

/-- The decimal number that a text stands for, after blanks. A number without bounds is taken for a
large one. -/
def decimal? (text : String) : Option Decimal := do
  let (negative, cs) := match text.toList.dropWhile fun c => c == ' ' || ('\t' ≤ c && c ≤ '\r') with
    | '-' :: r => (true, r)
    | '+' :: r => (false, r)
    | cs => (false, cs)
  let signed (n : Nat) : Int := if negative then -(n : Int) else n
  if ["inf", "infinity"].contains (String.ofList (cs.map Char.toLower)) then
    return ⟨signed (tenTo 30), 0⟩
  if cs.take 2 == ['0', 'x'] || cs.take 2 == ['0', 'X'] then
    let digits := cs.drop 2
    if digits.isEmpty || !digits.all Escape.isHex then none
    else return ⟨signed (Escape.value 16 digits), 0⟩
  let mantissa := cs.takeWhile fun c => c.isDigit || c == '.'
  let exponent ← match cs.drop mantissa.length with
    | [] => some (0 : Int)
    | e :: r => if e == 'e' || e == 'E' then
        whole? (String.ofList (if r.head? == some '+' then r.drop 1 else r)) else none
  let (wholePart, rest) := (mantissa.takeWhile Char.isDigit, mantissa.dropWhile Char.isDigit)
  let part := rest.drop 1
  if !part.all Char.isDigit || (wholePart ++ part).isEmpty then none
  let n := (wholePart ++ part).foldl (fun n d => n * 10 + (d.toNat - '0'.toNat)) 0
  let places : Int := (part.length : Int) - exponent
  let n := signed n
  if places < 0 then return ⟨n * tenTo (-places).toNat, 0⟩ else return ⟨n, places.toNat⟩

/-- The count of a number that has more places. -/
def Decimal.scaled (d : Decimal) (places : Nat) : Int := d.count * tenTo (places - d.places)

/-- A count of the smallest part as a text. -/
def shownDecimal (places : Nat) (n : Int) : String :=
  let digits := (toString n.natAbs).toList
  let digits := List.replicate (places + 1 - digits.length) '0' ++ digits
  let start := digits.take (digits.length - places)
  (if n < 0 then "-" else "") ++ String.ofList (start ++
    if places == 0 then [] else '.' :: digits.drop start.length)

/-- The smallest divisor of a number from one on, with a bound on how far to look. -/
def divisor : Nat → Nat → Nat → Nat
  | 0, _, n => n
  | k + 1, d, n =>
    if n < d * d then n else if n % d == 0 then d else divisor k (if d == 2 then 3 else d + 2) n

/-- The prime factors of a number. -/
def factors : Nat → Nat → List Nat
  | 0, _ => []
  | k + 1, n =>
    if n < 2 then []
    else
      let d := divisor (twoTo (n.log2 / 2 + 1)) 2 n
      d :: factors k (n / d)

end Reckon

namespace Tool

/-- `expr`: shows the value of an expression. -/
def expr (j : Job) : Job :=
  match j.call.arguments with
  | ["--help"] | ["--version"] => j
  | arguments =>
    match if arguments.head? == some "--" then arguments.drop 1 else arguments with
    | [] => j.missingOperand [] 2
    | words =>
      match Reckon.choice (8 * words.length + 16) ⟨[], words⟩ with
      | .error (status, message) => (j.complain message).fail status
      | .ok (value, ⟨_, []⟩) =>
        let j := j.write (value ++ "\n")
        if Reckon.isNull value then j.fail 1 else j
      | .ok (_, ⟨_, extra :: _⟩) =>
        (j.complain ("syntax error: unexpected argument " ++ Quote.always extra)).fail 2

/-- Arguments before which two dashes stand if the first of them is a number below zero. -/
def withNumbers (arguments : List String) : List String :=
  match arguments with
  | a :: r =>
    match a.toList with
    | '-' :: c :: _ =>
      if a == "--" then arguments
      else if c.isDigit || c == '.' then "--" :: a :: r
      else if a.length == 2 && (c == 'f' || c == 's') then a :: r.take 1 ++ withNumbers (r.drop 1)
      else a :: withNumbers r
    | _ => arguments
  | [] => []
termination_by arguments.length

/-- The numbers from one to another by steps, with a bound on how many there are. -/
def progression : Nat → Int → Int → Int → List Int
  | 0, _, _, _ => []
  | n + 1, value, step, last =>
    if (0 < step && last < value) || (step < 0 && value < last) then []
    else value :: progression n (value + step) step last

/-- Why a text cannot be used to show numbers. -/
def formatFault? (format : String) : Option String :=
  let shown := "format " ++ Quote.always format
  let rec skipText : Nat → List Char → List Char
    | 0, cs => cs
    | n + 1, cs =>
      match cs with
      | '%' :: '%' :: r => skipText n r
      | '%' :: r => '%' :: r
      | _ :: r => skipText n r
      | [] => []
  match skipText (format.length + 1) format.toList with
  | [] => some (shown ++ " has no % directive")
  | _ :: r =>
    let r := r.dropWhile fun c => "-+#0 '".toList.contains c
    let r := r.dropWhile Char.isDigit
    let r := if r.head? == some '.' then (r.drop 1).dropWhile Char.isDigit else r
    match if r.head? == some 'L' then r.drop 1 else r with
    | [] => some (shown ++ " ends in %")
    | c :: r =>
      if !"efgaEFGA".toList.contains c then
        some (shown ++ " has unknown %" ++ String.singleton c ++ " directive")
      else if (skipText (r.length + 1) r).isEmpty then none
      else some (shown ++ " has too many % directives")

/-- `seq`: shows numbers one after the other. -/
def seq (j : Job) : Job :=
  { j with call := { j.call with arguments := withNumbers j.call.arguments } }.withOptions 1
    ⟨"f:s:w", [("format", "f"), ("separator", "s"), ("equal-width", "w")], true⟩
    fun j given texts =>
      match texts with
      | [] => j.missingOperand [] 1
      | _ :: _ :: _ :: extra :: _ => j.extraOperand extra 1
      | _ =>
        match (Options.value? given "f").bind formatFault?,
          texts.find? fun t => (Reckon.decimal? t).isNone with
        | some fault, _ => (j.complain fault).fail 1
        | none, some t =>
          let isNone := "nan".toList.isPrefixOf
            ((t.toList.dropWhile fun c => c == ' ' || c == '-' || c == '+').map Char.toLower)
          j.misuse ((if isNone then "invalid " ++ Quote.always "not-a-number" ++ " argument: "
            else "invalid floating point argument: ") ++ Quote.always t) 1
        | none, none =>
          if Options.has given "f" && Options.has given "w" then
            j.misuse "format string may not be specified when printing equal width strings" 1
          else
          let one : Reckon.Decimal := ⟨1, 0⟩
          let (first, step, last) := match texts.filterMap Reckon.decimal? with
            | [a, b, c] => (a, b, c)
            | [a, c] => (a, one, c)
            | [c] => (one, one, c)
            | _ => (one, one, one)
          if step.count == 0 then
            j.misuse ("invalid Zero increment value: " ++ Quote.always (texts.getD 1 "")) 1
          else
            let places := max first.places step.places
            let exact := max places last.places
            let counts := progression 1000000 (first.scaled exact) (step.scaled exact)
              (last.scaled exact)
            let shown (n : Int) : String := Reckon.shownDecimal places (n / tenTo (exact - places))
            let ends := [first, last].map fun (d : Reckon.Decimal) => shown (d.scaled exact)
            let width := (ends.map String.length).foldl max 0
            let padded (t : String) : String :=
              if Options.has given "w" then
                let sign := if "-".isPrefixOf t then "-" else ""
                sign ++ String.ofList (List.replicate (width - t.length) '0') ++
                  dropText sign.length t
              else t
            let formatted (t : String) : String := match Options.value? given "f" with
              | none => padded t
              | some format =>
                let pieces := (Printf.run .program format [t]).1
                String.join (pieces.filterMap fun (d, t) => if d == 1 then some t else none)
            let separator := (Options.value? given "s").getD "\n"
            if counts.isEmpty then j
            else j.write (String.intercalate separator (counts.map fun n => formatted (shown n)) ++
              "\n")

/-- `factor`: shows the prime factors of numbers. -/
def factor (j : Job) : Job :=
  j.withOptions 1 ⟨"h", [("exponents", "h")], false⟩ fun j given words =>
    let (words, j) :=
      if words.isEmpty then
        match j.takeInput with
        | (.ok text, j) => (((text.toList.map fun c => if c == '\n' || c == '\t' then ' ' else c) |>
            splitAt ' ').map String.ofList |>.filter (· != ""), j)
        | (.error _, j) => ([], j)
      else (words, j)
    j.forEach words fun j word =>
      match (if "+".isPrefixOf word then dropText 1 word else word).toNat? with
      | none => (j.complain (Quote.always word ++ " is not a valid positive integer")).fail 1
      | some n =>
        let fs := Reckon.factors (n.log2 + 1) n
        let shown := if Options.has given "h" then
            (fs.eraseDups.map fun f =>
              let k := fs.count f
              if k == 1 then toString f else toString f ++ "\x5e" ++ toString k)
          else fs.map toString
        j.write (String.intercalate " " ((toString n ++ ":") :: shown) ++ "\n")

end Tool

end EnvProfiles
