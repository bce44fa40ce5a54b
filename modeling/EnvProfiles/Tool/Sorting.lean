import EnvProfiles.Decimal.Floating
import EnvProfiles.Tool.Lines

/-!
# Sorting Lines

Lines in order, by all of them or by keys, which are parts of lines. Keys are
compared as texts, with or without regard to some characters, or as numbers of
several kinds. Lines whose keys are equal are compared as texts, unless they are
to stay as they were.

## Main definitions

* `Sorting.Manner`: How keys are compared.
* `Sorting.Key`: A part of a line, and how it is compared.
* `Sorting.compareLines`: The order of two lines.
* `Tool.sort`, `Tool.uniq`, `Tool.comm`, `Tool.join`: Sort lines, and look for those that are equal.
-/

namespace EnvProfiles

namespace Sorting

/-- What two texts are compared as. -/
inductive Measure where
  | text
  | number
  /-- Numbers with exponents. -/
  | floating
  /-- Numbers with a letter for a power of a thousand. -/
  | scaled
  | month
  | version
deriving DecidableEq, Repr

/-- How keys are compared. -/
structure Manner where
  measure : Measure := .text
  reversed : Bool := false
  /-- Whether letters are taken for capital ones. -/
  folded : Bool := false
  /-- Whether only letters, digits and blanks count. -/
  dictionary : Bool := false
  /-- Whether only characters count that can be seen. -/
  visible : Bool := false
  skipsStart : Bool := false
  skipsEnd : Bool := false
deriving DecidableEq, Repr

/-- Adds what a letter says about the comparison. -/
def Manner.add (m : Manner) (letter : Char) (atStart atEnd : Bool) : Option Manner :=
  match letter with
  | 'b' => some { m with skipsStart := m.skipsStart || atStart, skipsEnd := m.skipsEnd || atEnd }
  | 'd' => some { m with dictionary := true }
  | 'f' => some { m with folded := true }
  | 'g' => some { m with measure := .floating }
  | 'h' => some { m with measure := .scaled }
  | 'i' => some { m with visible := true }
  | 'M' => some { m with measure := .month }
  | 'n' => some { m with measure := .number }
  | 'r' => some { m with reversed := true }
  | 'V' => some { m with measure := .version }
  | _ => none

/-- A place in a line: how many fields and characters are before it. -/
structure Mark where
  fields : Nat
  chars : Nat
deriving DecidableEq, Repr

/-- A part of a line, up to its end if no other place is given, and how it is compared. -/
structure Key where
  start : Mark
  stop : Option Mark
  manner : Manner
deriving Repr

def isBlank (c : Char) : Bool := c == ' ' || c == '\t' || c == '\n'

/-- Skips fields. The flag tells whether the separator after the last one is skipped as well. -/
def skipFields (separator : Option Char) (last : Bool) : Nat → List Char → List Char
  | 0, cs => cs
  | n + 1, cs =>
    match separator with
    | some s =>
      let r := cs.dropWhile (· != s)
      skipFields separator last n (if n == 0 && !last then r else r.drop 1)
    | none => skipFields separator last n ((cs.dropWhile isBlank).dropWhile fun c => !isBlank c)

/-- The part of a line that a key stands for. -/
def Key.part (separator : Option Char) (key : Key) (line : List Char) : List Char :=
  let rest := skipFields separator true key.start.fields line
  let rest := if key.manner.skipsStart then rest.dropWhile isBlank else rest
  let begins := line.length - (rest.length - key.start.chars)
  let ends := match key.stop with
    | none => line.length
    | some ⟨fields, 0⟩ => line.length - (skipFields separator false (fields + 1) line).length
    | some ⟨fields, chars⟩ =>
      let rest := skipFields separator true fields line
      let rest := if key.manner.skipsEnd then rest.dropWhile isBlank else rest
      line.length - (rest.length - chars)
  (line.drop begins).take (ends - begins)

/-! ### Comparing -/

/-- A decimal number at the start of a text, as a count of its smallest part. -/
def numberAt (cs : List Char) : Bool × List Char × List Char × List Char :=
  let cs := cs.dropWhile isBlank
  let (negative, cs) := match cs with
    | '-' :: r => (true, r)
    | cs => (false, cs)
  let whole := cs.takeWhile Char.isDigit
  let (part, rest) := match cs.drop whole.length with
    | '.' :: r => (r.takeWhile Char.isDigit, r.dropWhile Char.isDigit)
    | r => ([], r)
  (negative, whole, part, rest)

/-- The value of digits. -/
def valueOf (digits : List Char) : Nat :=
  digits.foldl (fun n d => n * 10 + (d.toNat - '0'.toNat)) 0

/-- The order of two numbers with digits after the point. -/
def compareDecimals (a b : Bool × List Char × List Char) : Ordering :=
  let places := max a.2.2.length b.2.2.length
  let value (x : Bool × List Char × List Char) : Int :=
    let n : Int := valueOf (x.2.1 ++ x.2.2 ++ List.replicate (places - x.2.2.length) '0')
    if x.1 then -n else n
  compare (value a) (value b)

/-- The order of two texts as numbers. -/
def compareNumbers (a b : List Char) : Ordering :=
  let (na, wa, pa, _) := numberAt a
  let (nb, wb, pb, _) := numberAt b
  compareDecimals (na, wa, pa) (nb, wb, pb)

/-- The order of two texts as numbers with a letter after them: first by their sign, then by the
letter. -/
def compareScaled (a b : List Char) : Ordering :=
  let read (cs : List Char) : Bool × List Char × List Char × Int :=
    let (negative, whole, part, rest) := numberAt cs
    let zero := (whole ++ part).all (· == '0')
    let power : Nat := match rest with
      | c :: _ => (("KMGTPEZYRQ".toList.idxOf? (if c == 'k' then 'K' else c)).map (· + 1)).getD 0
      | [] => 0
    (negative, whole, part, if zero then 0 else if negative then -(power : Int) - 1 else power + 1)
  let (na, wa, pa, ka) := read a
  let (nb, wb, pb, kb) := read b
  (compare ka kb).then (compareDecimals (na, wa, pa) (nb, wb, pb))

/-- A text as a number with an exponent: a rank for texts that are none, and the number. -/
def floatingRank (cs : List Char) : Nat × Int × Nat × Nat :=
  match Floating.ofText? 64 (cs.dropWhile isBlank) with
  | none => (0, 0, 0, 1)
  | some (.undefined _, _) => (1, 0, 0, 1)
  | some (.infinite negative, _) => if negative then (2, 0, 0, 1) else (4, 0, 0, 1)
  | some (.finite negative mantissa exponent, _) =>
    let (a, b) := Floating.ratio mantissa exponent
    (3, if negative then -1 else 1, a, b)

/-- The order of two texts as numbers with exponents. -/
def compareFloating (a b : List Char) : Ordering :=
  let (ra, sa, na, da) := floatingRank a
  let (rb, sb, nb, db) := floatingRank b
  (compare ra rb).then (compare (sa * na * db) (sb * nb * da))

/-- The number of a month, or zero. -/
def monthOf (cs : List Char) : Nat :=
  let name := String.ofList (((cs.dropWhile isBlank).take 3).map Char.toUpper)
  ((["JAN", "FEB", "MAR", "APR", "MAY", "JUN", "JUL", "AUG", "SEP", "OCT", "NOV", "DEC"].idxOf?
    name).map (· + 1)).getD 0

/-- The place of a character in the order of versions. -/
def versionRank (c : Char) : Int :=
  if c.isAlpha then c.toNat else if c == '~' then -1 else c.toNat + 256

/-- The order of two texts as versions: rows of digits in them are numbers. The bound is the length
of both. -/
def compareVersions : Nat → List Char → List Char → Ordering
  | 0, _, _ => .eq
  | n + 1, a, b =>
    if a.isEmpty && b.isEmpty then .eq
    else
      let wa := a.takeWhile fun c => !c.isDigit
      let wb := b.takeWhile fun c => !c.isDigit
      let rank (w : List Char) (i : Nat) : Int := match w[i]? with
        | some c => versionRank c
        | none => 0
      let words := (List.range (max wa.length wb.length)).foldl (fun o i =>
        Ordering.then o (compare (rank wa i) (rank wb i))) .eq
      let a := a.drop wa.length
      let b := b.drop wb.length
      let da := a.takeWhile Char.isDigit
      let db := b.takeWhile Char.isDigit
      (words.then (compare (valueOf da) (valueOf db))).then
        (compareVersions n (a.drop da.length) (b.drop db.length))

/-- The order of two texts, octet by octet. -/
def compareTexts (a b : List Char) : Ordering :=
  compareOfLessAndEq (String.ofList a) (String.ofList b)

/-- The order of two keys. -/
def compareKeys (m : Manner) (a b : List Char) : Ordering :=
  let prepared (cs : List Char) : List Char :=
    let cs := if m.dictionary then cs.filter fun c => c.isAlphanum || isBlank c else cs
    let cs := if m.visible then cs.filter fun c => ' ' ≤ c && c < '\x7f' else cs
    if m.folded then cs.map Char.toUpper else cs
  let order := match m.measure with
    | .text => compareTexts (prepared a) (prepared b)
    | .number => compareNumbers a b
    | .floating => compareFloating a b
    | .scaled => compareScaled a b
    | .month => compare (monthOf a) (monthOf b)
    | .version => compareVersions (a.length + b.length + 1) a b
  if m.reversed then order.swap else order

/-- How lines are sorted. -/
structure Settings where
  keys : List Key
  separator : Option Char
  /-- What holds for the lines as a whole. -/
  manner : Manner
  /-- Whether lines with equal keys stay in their order. -/
  stable : Bool

/-- The order of two lines by their keys. -/
def compareByKeys (s : Settings) (a b : List Char) : Ordering :=
  if s.keys.isEmpty then
    let skip (cs : List Char) : List Char :=
      if s.manner.skipsStart then cs.dropWhile isBlank else cs
    compareKeys s.manner (skip a) (skip b)
  else s.keys.foldl (fun o key => o.then
    (compareKeys key.manner (key.part s.separator a) (key.part s.separator b))) .eq

/-- The order of two lines. -/
def compareLines (s : Settings) (a b : List Char) : Ordering :=
  let order := compareByKeys s a b
  if s.stable || s.keys.isEmpty && s.manner == { reversed := s.manner.reversed : Manner } then order
  else
    let texts := compareTexts a b
    order.then (if s.manner.reversed then texts.swap else texts)

/-- A count at the start of a text, and what follows it. -/
def readCount (what : String) (cs : List Char) : Except String (Nat × List Char) :=
  let digits := cs.takeWhile Char.isDigit
  if digits.isEmpty then
    .error ("invalid number " ++ what ++ ": invalid count at start of " ++
      Quote.always (String.ofList cs))
  else .ok (valueOf digits, cs.drop digits.length)

/-- A mark and the letters after it: the number of a field, and of a character in it. -/
def readMark (what : String) (cs : List Char) : Except String (Nat × Option Nat × List Char) := do
  let (fields, r) ← readCount what cs
  match r with
  | '.' :: r =>
    let (chars, r) ← readCount "after '.'" r
    return (fields, some chars, r)
  | r => return (fields, none, r)

/-- How keys are compared by the letters at the start of a text, and what follows them. -/
def readLetters (m : Manner) (atStart atEnd : Bool) : List Char → Manner × List Char
  | [] => (m, [])
  | c :: r =>
    match m.add c atStart atEnd with
    | some m => readLetters m atStart atEnd r
    | none => if c == 'R' then readLetters m atStart atEnd r else (m, c :: r)

/-- The key that the text of an option describes, and whether it says how keys are compared. -/
def Key.ofText (text : String) : Except String (Key × Bool) := do
  let wrong {α : Type} (why : String) : Except String α :=
    .error (why ++ ": invalid field specification " ++ Quote.always text)
  let (fields, chars, r) ← readMark "at field start" text.toList
  if fields == 0 then wrong "field number is zero"
  if chars == some 0 then wrong "character offset is zero"
  let (m, r) := readLetters {} true false r
  let start : Mark := ⟨fields - 1, (chars.getD 1) - 1⟩
  let (stop, m, r) ← (match r with
    | ',' :: r => do
      let (fields, chars, r) ← readMark "after ','" r
      if fields == 0 then wrong "field number is zero"
      let (m, r) := readLetters m false true r
      return (some ⟨fields - 1, chars.getD 0⟩, m, r)
    | r => return (none, m, r) : Except String (Option Mark × Manner × List Char))
  if !r.isEmpty then wrong "stray character in field spec"
  return (⟨start, stop, m⟩, m != {})

/-- The letters that contradict each other among those that tell how keys are compared. -/
def conflict? (letters : List Char) : Option String :=
  let has := letters.contains
  let kinds := ["n", "g", "h", "M", "VRdi"].filter fun kind => kind.toList.any has
  if kinds.length < 2 then none
  else some (String.ofList ("dfghiMnRV".toList.filter fun c => has c && !(c == 'i' && has 'd')))

/-- Lines of which those that are equal to the one before are left out. -/
def distinct (same : List Char → List Char → Bool) : List (List Char) → List (List Char)
  | a :: b :: r => if same a b then distinct same (a :: r) else a :: distinct same (b :: r)
  | lines => lines
termination_by lines => lines.length

/-- The first line that comes before the one before it, and its number. -/
def disorder? (before : List Char → List Char → Bool) : Nat → List (List Char) →
    Option (Nat × List Char)
  | n, a :: b :: r => if before a b then disorder? before (n + 1) (b :: r) else some (n + 1, b)
  | _, _ => none

end Sorting

namespace Tool

/-- `sort`: sorts lines. -/
def sort (j : Job) : Job :=
  j.withOptions 2 ⟨"bdfghik:mMno:rRsS:t:T:uVyzcC", [("ignore-leading-blanks", "b"),
    ("dictionary-order", "d"), ("ignore-case", "f"), ("general-numeric-sort", "g"),
    ("human-numeric-sort", "h"), ("ignore-nonprinting", "i"), ("key", "k"), ("merge", "m"),
    ("month-sort", "M"), ("numeric-sort", "n"), ("output", "o"), ("reverse", "r"), ("stable", "s"),
    ("field-separator", "t"), ("unique", "u"), ("version-sort", "V"), ("zero-terminated", "z"),
    ("check", "check::"), ("random-sort", "R"), ("sort", "sort:"), ("parallel", "parallel:"),
    ("buffer-size", "S"), ("temporary-directory", "T"), ("batch-size", "batch-size:"),
    ("compress-program", "compress-program:"), ("random-source", "random-source:")], false⟩
    fun j given paths =>
    let stop := Lines.stopOf given "z"
    let kinds := [("general-numeric", "g"), ("human-numeric", "h"), ("month", "M"),
      ("numeric", "n"), ("random", "R"), ("version", "V")]
    let checks := [("quiet", "C"), ("silent", "C"), ("diagnose-first", "c")]
    let choose (table : List (String × String)) (text : String) : Option Options.Given :=
      ((Job.choice? (table.map (·.1)) text).bind fun k => table.lookup k).map fun k => (k, none)
    let translated := given.map fun (k, v) => match k, v with
      | "sort", some text => (choose kinds text).getD (k, v)
      | "check", some text => (choose checks text).getD (k, v)
      | "check", none => ("c", none)
      | _, _ => (k, v)
    match translated.find? fun g => g.1 == "sort" || g.1 == "check" with
    | some (k, v) =>
      j.wrongChoice k (v.getD "") ((if k == "sort" then kinds else checks).map (·.1)) 1
    | none => sorted j stop translated paths
where
  /-- Sorts lines as options ask for. -/
  sorted (j : Job) (stop : Char) (given : List Options.Given) (paths : List String) : Job :=
    let refuse (message : String) : Job := (j.complain message).fail 2
    let incompatible (letters : String) : Job :=
      refuse ("options '-" ++ letters ++ "' are incompatible")
    let manner := given.foldl (fun (m : Sorting.Manner) (key, _) => match key.toList with
      | [c] => (m.add c true true).getD m
      | _ => m) {}
    let specified := given.filterMap fun (key, value) => if key == "k" then value else none
    let global := (given.filterMap fun (k, _) => k.toList.head?).filter fun c =>
      "dfghiMnRV".toList.contains c
    let ownLetters (text : String) : List Char := text.toList.filter Char.isAlpha
    let conflicts := if specified.isEmpty then [Sorting.conflict? global]
      else specified.map fun text => Sorting.conflict?
        (if (ownLetters text).isEmpty then global else ownLetters text)
    let separators := (given.filterMap fun (k, v) => if k == "t" then v else none).map fun t =>
      if t == "\\0" then "\x00" else t
    let outputs := (given.filterMap fun (k, v) => if k == "o" then v else none).eraseDups
    let checking := (given.filter fun g => g.1 == "c" || g.1 == "C").map (·.1)
    match specified.mapM Sorting.Key.ofText with
    | .error message => refuse message
    | .ok keys =>
    if separators.contains "" then refuse "empty tab"
    else if let some t := separators.find? fun t => t.length != 1 then
      refuse ("multi-character tab " ++ Quote.always t)
    else if 1 < separators.eraseDups.length then refuse "incompatible tabs"
    else if 1 < checking.eraseDups.length then incompatible "cC"
    else if 1 < outputs.length then refuse "multiple output files specified"
    else if let some letters := conflicts.findSome? id then incompatible letters
    else if !checking.isEmpty && 1 < paths.length then
      refuse ("extra operand " ++ Quote.always (paths.getD 1 "") ++ " not allowed with -" ++
        checking.head?.getD "c")
    else if !checking.isEmpty && !outputs.isEmpty then
      incompatible (checking.head?.getD "c" ++ "o")
    else
      let unique := Options.has given "u"
      let separator := separators.head?.bind fun t => t.toList.head?
      let settings : Sorting.Settings :=
        { keys := keys.map fun (key, own) => if own then key else { key with manner }
          separator, manner, stable := Options.has given "s" || unique }
      let files := if paths.isEmpty then ["-"] else paths
      let gathered := files.foldl (fun (acc : Except (String × Refusal) (List String) × Job) path =>
        match acc with
        | (.error e, j) => (.error e, j)
        | (.ok lines, j) =>
          match j.read path with
          | (.ok text, j) => (.ok (lines ++ Lines.split stop text), j)
          | (.error refusal, j) => (.error (path, refusal), j)) (.ok [], j)
      match gathered with
      | (.error (path, .isDirectory), j) =>
        (j.complain ("read failed: " ++ path ++ ": " ++ Refusal.isDirectory.detail)).fail 2
      | (.error (path, refusal), j) =>
        (j.complain ("cannot read: " ++ path ++ ": " ++ refusal.detail)).fail 2
      | (.ok lines, j) =>
        let lines := lines.map String.toList
        let order := Sorting.compareLines settings
        if Options.has given "c" || Options.has given "C" then
          let inOrder (a b : List Char) : Bool :=
            if unique then order a b == .lt else order a b != .gt
          match Sorting.disorder? inOrder 1 lines with
          | none => j
          | some (n, line) =>
            let j := j.fail 1
            if Options.has given "c" then
              j.complain ((files.head?.getD "-") ++ ":" ++ toString n ++ ": disorder: " ++
                String.ofList line)
            else j
        else
          let sorted := lines.mergeSort fun a b => order a b != .gt
          let sorted := if unique then
              Sorting.distinct (fun a b => Sorting.compareByKeys settings a b == .eq) sorted
            else sorted
          let text := Lines.join stop (sorted.map String.ofList)
          match Options.value? given "o" with
          | none => j.write text
          | some path =>
            match j.writeFile path text with
            | .ok j => j
            | .error refusal =>
              (j.complain ("open failed: " ++ path ++ ": " ++ refusal.detail)).fail 2

/-- Groups of lines of which each is equal to the next one. -/
def groups (same : String → String → Bool) : List String → List (List String)
  | [] => []
  | a :: r =>
    match groups same r with
    | (b :: g) :: gs => if same a b then (a :: b :: g) :: gs else [a] :: (b :: g) :: gs
    | gs => [a] :: gs

/-- Whether groups of lines have an empty line before them, between them, or after them. -/
def groupGaps (method : String) (texts : List String) (stop : Char) : String :=
  let gap := String.singleton stop
  match method with
  | "prepend" => String.join (texts.map fun t => gap ++ t)
  | "append" => String.join (texts.map fun t => t ++ gap)
  | "both" => if texts.isEmpty then "" else String.join (texts.map fun t => gap ++ t) ++ gap
  | "separate" => String.intercalate gap texts
  | _ => String.join texts

/-- The arguments of `uniq` with the old ways to skip fields and characters in the new one. -/
def withSkips (arguments : List String) : List String :=
  match arguments with
  | [] => []
  | a :: r =>
    if a == "--" then a :: r
    else
      let rest := a.toList.drop 1
      let isNumber := !rest.isEmpty && rest.all Char.isDigit
      if "-".isPrefixOf a && isNumber then "-f" :: String.ofList rest :: withSkips r
      else if "+".isPrefixOf a && isNumber then "-s" :: String.ofList rest :: withSkips r
      else if a == "-f" || a == "-s" || a == "-w" then a :: r.take 1 ++ withSkips (r.drop 1)
      else a :: withSkips r
termination_by arguments.length

/-- `uniq`: shows one of lines that are equal and follow each other. -/
def uniq (j : Job) : Job :=
  { j with call := { j.call with arguments := withSkips j.call.arguments } }.withOptions 1
    ⟨"cdDf:is:uw:z", [("count", "c"), ("repeated", "d"), ("all-repeated", "all-repeated::"),
    ("skip-fields", "f"), ("ignore-case", "i"), ("skip-chars", "s"), ("unique", "u"),
    ("check-chars", "w"), ("zero-terminated", "z"), ("group", "group::")], false⟩
    fun j given paths =>
    let has := Options.has given
    let numbers := [("f", "fields to skip"), ("s", "bytes to skip"), ("w", "bytes to compare")]
    let wrong := given.findSome? fun ((k, v) : Options.Given) =>
      (numbers.lookup k).bind fun what =>
        if ((v.getD "").toNat?).isNone then some (v.getD "" ++ ": invalid number of " ++ what)
        else none
    let groupings := ["prepend", "append", "separate", "both"]
    let repeats := ["none", "prepend", "separate"]
    let chosen (key standard : String) (valid : List String) : Option String :=
      Job.choice? valid ((Options.value? given key).getD standard)
    let value (key : String) : String := (Options.value? given key).getD ""
    let showsAll := has "D" || has "all-repeated"
    match wrong, chosen "group" "separate" groupings, chosen "all-repeated" "none" repeats with
    | some message, _, _ => (j.complain message).fail 1
    | none, none, _ => j.wrongChoice "group" (value "group") groupings 1
    | none, _, none => j.wrongChoice "all-repeated" (value "all-repeated") repeats 1
    | none, some grouping, some repeated =>
      if has "group" && (has "c" || has "d" || showsAll || has "u") then
        j.misuse "--group is mutually exclusive with -c/-d/-D/-u" 1
      else if showsAll && has "c" then
        j.misuse "printing all duplicated lines and repeat counts is meaningless" 1
      else
        let method := if has "group" then grouping else if showsAll then repeated else "none"
        go j given paths method (has "group" || showsAll) showsAll
where
  /-- Shows lines, all of a group or one of them. -/
  go (j : Job) (given : List Options.Given) (paths : List String) (method : String)
      (whole onlyRepeated : Bool) : Job :=
    let has := Options.has given
    let stop := Lines.stopOf given "z"
    let number (key : String) : Option Nat := (Options.value? given key).bind String.toNat?
    let key (line : String) : List Char :=
      let cs := Sorting.skipFields none true ((number "f").getD 0) line.toList
      let cs := cs.drop ((number "s").getD 0)
      let cs := match number "w" with
        | some n => cs.take n
        | none => cs
      if has "i" then cs.map Char.toUpper else cs
    match paths with
    | _ :: _ :: extra :: _ => j.extraOperand extra 1
    | _ =>
      let path := paths.head?.getD "-"
      match j.read path with
      | (.error .isDirectory, j) =>
        (j.complain ("error reading " ++ Quote.always path ++ ": " ++
          Refusal.isDirectory.detail)).fail 1
      | (.error refusal, j) => j.refuse path refusal 1
      | (.ok text, j) =>
        let found := groups (fun a b => key a == key b) (Lines.split stop text)
        let wanted := found.filter fun g =>
          !((has "d" || onlyRepeated) && g.length == 1) && !(has "u" && 1 < g.length)
        let texts := wanted.map fun g =>
          if whole then Lines.join stop g
          else
            let line := g.head?.getD ""
            (if has "c" then padLeft 7 (toString g.length) ++ " " ++ line else line).push stop
        let out := groupGaps method texts stop
        match paths with
        | [_, target] =>
          if target == "-" then j.write out
          else match j.writeFile target out with
            | .ok j => j
            | .error refusal => j.refuse target refusal 1
        | _ => j.write out

/-- Lines of two texts side by side, with the number of the column each belongs to. -/
def merged (order : String → String → Ordering) : List String → List String →
    List (Nat × String)
  | [], b => b.map fun l => (1, l)
  | a, [] => a.map fun l => (0, l)
  | x :: a, y :: b =>
    match order x y with
    | .lt => (0, x) :: merged order a (y :: b)
    | .gt => (1, y) :: merged order (x :: a) b
    | .eq => (2, x) :: merged order a b
termination_by a b => a.length + b.length

/-- `comm`: compares two texts with sorted lines. -/
def comm (j : Job) : Job :=
  j.withOptions 1 ⟨"123z", [("output-delimiter", "output-delimiter:"),
    ("check-order", "check-order"), ("nocheck-order", "nocheck-order"), ("total", "total"),
    ("zero-terminated", "z")], false⟩ fun j given paths =>
    match paths with
    | [] => j.missingOperand [] 1
    | [a] => j.missingOperand [a] 1
    | _ :: _ :: extra :: _ => j.extraOperand extra 1
    | [a, b] =>
      let stop := Lines.stopOf given "z"
      match j.read a with
      | (.error refusal, j) => j.refuse a refusal 1
      | (.ok first, j) =>
        match j.read b with
        | (.error refusal, j) => j.refuse b refusal 1
        | (.ok second, j) =>
          let separator := (Options.value? given "output-delimiter").getD "\t"
          let shown := ["1", "2", "3"].map fun k => !Options.has given k
          let order (a b : String) : Ordering := Sorting.compareTexts a.toList b.toList
          let lines := (merged order (Lines.split stop first) (Lines.split stop second)).filterMap
            fun (k, line) =>
              if shown.getD k true then
                some (String.join (((shown.take k).filter id).map fun _ => separator) ++ line)
              else none
          let isSorted (lines : List String) : Bool :=
            (Sorting.disorder? (fun a b => Sorting.compareTexts a b != .gt) 1
              (lines.map String.toList)).isNone
          let j := j.write (Lines.join stop lines)
          let complain (j : Job) (n : Nat) (text : String) : Job :=
            if isSorted (Lines.split stop text) || Options.has given "nocheck-order" then j
            else (j.complain ("file " ++ toString n ++ " is not in sorted order")).fail 1
          let checked := complain (complain j 1 first) 2 second
          if checked.status == 1 && j.status == 0 then
            checked.complain "input is not in sorted order"
          else checked

/-- The fields of a line. -/
def fieldsOf (separator : Option Char) (line : String) : List String :=
  match separator with
  | some c => (splitAt c line.toList).map String.ofList
  | none => ((splitAt ' ' (line.toList.map fun c => if c == '\t' then ' ' else c)).map
      String.ofList).filter (· != "")

/-- A field that `join` shows: that of both lines, or one of a file by its number. -/
def joinFields (text : String) : List (Option (Nat × Nat)) :=
  ((splitAt ',' (text.toList.map fun c => if c == ' ' then ',' else c)).map String.ofList).map
    fun t => match splitAt '.' t.toList with
      | [a, b] => match (String.ofList a).toNat?, (String.ofList b).toNat? with
        | some a, some b => some (a, b)
        | _, _ => none
      | _ => none

/-- `join`: joins lines of two files that agree in a field. -/
def join (j : Job) : Job :=
  j.withOptions 1 ⟨"a:e:i1:2:j:o:t:v:z", [("ignore-case", "i"), ("header", "header")], false⟩
    fun j given paths =>
    match paths with
    | [] => j.missingOperand [] 1
    | [a] => j.missingOperand [a] 1
    | _ :: _ :: extra :: _ => j.extraOperand extra 1
    | [a, b] =>
      match j.read a with
      | (.error refusal, j) => j.refuse a refusal 1
      | (.ok first, j) =>
        match j.read b with
        | (.error refusal, j) => j.refuse b refusal 1
        | (.ok second, j) =>
          let separator := (Options.value? given "t").bind fun t => t.toList.head?
          let number (key : String) : Nat :=
            (((Options.value? given key).orElse fun _ => Options.value? given "j").bind
              String.toNat?).getD 1
          let (na, nb) := (number "1", number "2")
          let rowsOf (text : String) : List (List String) :=
            (Lines.split '\n' text).map (fieldsOf separator)
          let fold (t : String) : String :=
            if Options.has given "i" then t.map Char.toUpper else t
          let keyOf (n : Nat) (row : List String) : String := fold (row.getD (n - 1) "")
          let (left, right) := (rowsOf first, rowsOf second)
          let unpaired := given.filterMap fun (k, v) =>
            if k == "a" || k == "v" then v.bind String.toNat? else none
          let onlyUnpaired := Options.has given "v"
          let empty := (Options.value? given "e").getD ""
          let gap := String.singleton (separator.getD ' ')
          let others (n : Nat) (row : List String) : List String :=
            row.zipIdx.filterMap fun (f, i) => if i + 1 == n then none else some f
          let shown (x y : Option (List String)) : String :=
            let key := match x, y with
              | some r, _ => r.getD (na - 1) ""
              | none, some r => r.getD (nb - 1) ""
              | none, none => ""
            match Options.value? given "o" with
            | some format =>
              String.intercalate gap ((joinFields format).map fun
                | none => key
                | some (file, n) =>
                  let row := if file == 1 then x else y
                  match row.bind (·[n - 1]?) with
                  | some f => if f == "" then empty else f
                  | none => empty)
            | none =>
              String.intercalate gap (key :: ((x.map (others na)).getD [] ++
                (y.map (others nb)).getD []))
          let before (a b : String) : Bool := Sorting.compareTexts a.toList b.toList == .lt
          let lines := left.flatMap fun x =>
            let partners := right.filter fun y => keyOf na x == keyOf nb y
            if partners.isEmpty then
              if unpaired.contains 1 then [(keyOf na x, shown (some x) none)] else []
            else if onlyUnpaired then []
            else partners.map fun y => (keyOf na x, shown (some x) (some y))
          let lone := if unpaired.contains 2 then
              (right.filter fun y => !left.any fun x => keyOf na x == keyOf nb y).map
                fun y => (keyOf nb y, shown none (some y))
            else []
          let all := lone.foldl (fun acc e =>
            let (low, high) := acc.span fun f => !before e.1 f.1
            low ++ e :: high) lines
          j.write (Lines.join '\n' (all.map (·.2)))

end Tool

end EnvProfiles
