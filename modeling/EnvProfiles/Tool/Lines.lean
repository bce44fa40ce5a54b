import EnvProfiles.Tool.Options

/-!
# Lines

Texts as rows of lines, and the programs that show, count or join them: a line
ends with a line feed, and the last one may lack it. Programs that number lines
or look for blank ones go on with that over all their files.

## Main definitions

* `Lines.split`, `Lines.pieces`: The lines of a text, without and with their ends.
* `Tool.cat`, `Tool.head`, `Tool.tail`, `Tool.wc`: Show and count what is in files.
* `Tool.paste`: Joins lines.
-/

namespace EnvProfiles

namespace Lines

/-- The lines of a text with their ends, of which the last one may lack it. -/
def piecesOf (stop : Char) : List Char → List Char → List (List Char)
  | [], [] => []
  | line, [] => [line.reverse]
  | line, c :: r =>
    if c == stop then (c :: line).reverse :: piecesOf stop [] r else piecesOf stop (c :: line) r

/-- The lines of a text with their ends. -/
def pieces (stop : Char) (text : String) : List String :=
  (piecesOf stop [] text.toList).map String.ofList

/-- A line without its end. -/
def body (stop : Char) (line : String) : String :=
  if line.toList.getLast? == some stop then String.ofList line.toList.dropLast else line

/-- The lines of a text without their ends. -/
def split (stop : Char) (text : String) : List String := (pieces stop text).map (body stop)

/-- Lines with an end for each of them. -/
def join (stop : Char) (lines : List String) : String :=
  String.join (lines.map fun l => l.push stop)

/-- The end of lines that an option asks for. -/
def stopOf (given : List Options.Given) (key : String) : Char :=
  if Options.has given key then '\x00' else '\n'

end Lines

/-- A number with blanks before it. -/
def padLeft (width : Nat) (text : String) : String :=
  String.ofList (List.replicate (width - text.length) ' ') ++ text

/-- A text with blanks after it. -/
def padRight (width : Nat) (text : String) : String :=
  text ++ String.ofList (List.replicate (width - text.length) ' ')

/-- The first characters of a text. -/
def takeText (n : Nat) (text : String) : String := String.ofList (text.toList.take n)

/-- What follows the first characters of a text. -/
def dropText (n : Nat) (text : String) : String := String.ofList (text.toList.drop n)

namespace Tool

/-! ### Numbers in arguments -/

/-- What the letters after a number multiply it with. -/
def multiplier? (letters : String) : Option Nat :=
  let power (c : Char) : Option Nat :=
    ("KMGTPEZY".toList.idxOf? c.toUpper).map (· + 1)
  match letters.toList with
  | [] => some 1
  | ['b'] => some 512
  | ['c'] => some 1
  | [c] => (power c).map (Nat.pow 1024)
  | [c, 'B'] => (power c).map (Nat.pow 1000)
  | [c, 'i', 'B'] => (power c).map (Nat.pow 1024)
  | _ => none

/-- A count, which may have letters after it. -/
def count? (text : String) : Option Nat :=
  let digits := text.toList.takeWhile Char.isDigit
  let letters := String.ofList (text.toList.drop digits.length)
  match (String.ofList digits).toNat?, multiplier? letters with
  | some n, some m => some (n * m)
  | none, some m => if letters == "" then none else some m
  | _, _ => none

/-! ### Showing -/

/-- How `cat` shows what it reads. -/
structure Showing where
  numbers : Bool
  /-- Only lines that are not blank have numbers. -/
  numbersFilled : Bool
  squeezes : Bool
  ends : Bool
  tabs : Bool
  hidden : Bool

/-- What stands for a character that cannot be seen. -/
def revealed (c : Char) : List Char :=
  let low (n : Nat) : List Char :=
    if n < 32 then ['^', Char.ofNat (n + 64)] else if n == 127 then ['^', '?'] else [Char.ofNat n]
  if c.toNat < 128 then low c.toNat else 'M' :: '-' :: low (c.toNat - 128)

/-- A line as `cat` shows it, without its number. -/
def shownLine (how : Showing) (line : List Char) : List Char :=
  let body := if line.getLast? == some '\n' then line.dropLast else line
  let ended := body.length < line.length
  -- Before an end that is shown, a carriage return is shown as well.
  let (body, returned) :=
    if how.ends && ended && body.getLast? == some '\r' && !how.hidden then
      (body.dropLast, "^M".toList)
    else (body, [])
  let shown := body.flatMap fun c =>
    if c == '\t' then (if how.tabs then ['^', 'I'] else [c])
    else if how.hidden then revealed c else [c]
  shown ++ returned ++ (if ended then (if how.ends then ['$', '\n'] else ['\n']) else [])

/-- Where `cat` has got to: the number of the last line, whether a line has been begun, and whether
the line before was blank. -/
structure Place where
  number : Nat
  isInLine : Bool
  afterBlank : Bool

/-- Shows lines that go on where others have ended. -/
def showLines (how : Showing) : Place → List (List Char) → Place × List (List Char)
  | place, [] => (place, [])
  | place, line :: r =>
    let ended := line.getLast? == some '\n'
    let blank := line == ['\n'] && !place.isInLine
    if blank && place.afterBlank && how.squeezes then showLines how place r
    else
      let numbered := !place.isInLine && (how.numbersFilled && !blank ||
        how.numbers && !how.numbersFilled)
      let number := if numbered then place.number + 1 else place.number
      let start := if numbered then (padLeft 6 (toString number) ++ "\t").toList else []
      let (next, shown) := showLines how ⟨number, !ended, blank⟩ r
      (next, (start ++ shownLine how line) :: shown)

/-- `cat`: shows what is in files. -/
def cat (j : Job) : Job :=
  j.withOptions 1 ⟨"AbeEnstTuv", [("show-all", "A"), ("number-nonblank", "b"), ("show-ends", "E"),
    ("number", "n"), ("squeeze-blank", "s"), ("show-tabs", "T"), ("show-nonprinting", "v")], false⟩
  fun j given paths =>
    let any (keys : List String) : Bool := keys.any (Options.has given)
    let how : Showing := ⟨any ["n"], any ["b"], any ["s"], any ["A", "e", "E"],
      any ["A", "t", "T"], any ["A", "e", "t", "v"]⟩
    let plain := given.all (·.1 == "u")
    let (j, _) := (if paths.isEmpty then ["-"] else paths).foldl (fun (j, place) path =>
      match j.read path with
      | (.error refusal, j) => (j.refuse path refusal 1, place)
      | (.ok text, j) =>
        if plain then (j.send text, place)
        else
          let (place, shown) := showLines how place (Lines.piecesOf '\n' [] text.toList)
          (j.send (String.ofList shown.flatten), place)) (j, (⟨0, false, false⟩ : Place))
    j

/-! ### Beginnings and ends -/

/-- How much of a file is shown: so many lines or octets, counted from the start or the end. -/
structure Extent where
  lines : Bool
  count : Nat
  /-- Whether the count is that of what is left out: at the other end of the file. -/
  others : Bool

/-- The beginning of a text. -/
def beginning (stop : Char) (extent : Extent) (text : String) : String :=
  if extent.lines then
    let pieces := Lines.pieces stop text
    let n := if extent.others then pieces.length - extent.count else extent.count
    String.join (pieces.take n)
  else takeText (if extent.others then text.length - extent.count else extent.count) text

/-- The end of a text. -/
def ending (stop : Char) (extent : Extent) (text : String) : String :=
  if extent.lines then
    let pieces := Lines.pieces stop text
    let n := if extent.others then extent.count - 1 else pieces.length - extent.count
    String.join (pieces.drop n)
  else dropText (if extent.others then extent.count - 1 else text.length - extent.count) text

/-- Arguments in which a dash and a number, which only the first argument may be, have become
options; or the letter after the number that means nothing. -/
def withCountOption (arguments : List String) : Except Char (List String) :=
  match arguments with
  | a :: r =>
    let digits := (a.toList.drop 1).takeWhile Char.isDigit
    let letters := a.toList.drop (digits.length + 1)
    if "-".isPrefixOf a && !digits.isEmpty then
      match letters.find? fun c => !"bkmclqvz".toList.contains c with
      | some c => .error c
      | none =>
        let unit := letters.reverse.find? fun c => "bkmcl".toList.contains c
        let key := if unit.isNone || unit == some 'l' then "-n" else "-c"
        let multiple := (unit.filter fun c => "bkm".toList.contains c).toList
        let flags := letters.filter fun c => "qvz".toList.contains c
        .ok (key :: String.ofList (digits ++ multiple) ::
          (flags.map fun c => String.ofList ['-', c]) ++ r)
    else .ok arguments
  | [] => .ok []

/-- The arguments that an old form of a call stands for: a sign, a number and letters, and at most
one file. -/
def oldForm? (arguments : List String) : Option (List String) :=
  let fewFiles (r : List String) : Bool :=
    match r with
    | [] => true
    | [file] => !("-".isPrefixOf file && 1 < file.length) || file == "--"
    | ["--", _] => true
    | _ => false
  match arguments with
  | a :: r =>
    match a.toList with
    | sign :: cs =>
      let digits := cs.takeWhile Char.isDigit
      let (unit, rest) := match cs.drop digits.length with
        | 'b' :: rest => (some 'b', rest)
        | 'c' :: rest => (some 'c', rest)
        | 'l' :: rest => (none, rest)
        | rest => (none, rest)
      let rest := if rest.head? == some 'f' then rest.drop 1 else rest
      let means := sign == '+' || (sign == '-' && !cs.isEmpty && cs != ['c'])
      if fewFiles r && means && rest.isEmpty then
        let count := if digits.isEmpty then ['1', '0'] else digits
        let number := (if sign == '+' then ['+'] else []) ++ count ++
          (if unit == some 'b' then ['b'] else [])
        some ((if unit.isSome then "-c" else "-n") :: String.ofList number :: r)
      else none
    | [] => none
  | [] => none

/-- Shows a part of each of some files, with their names if there are several. -/
def showParts (j : Job) (given : List Options.Given) (paths : List String)
    (part : String → String) (isEnd : Bool) : Job :=
  let several := match Options.last? given ["q", "v"] with
    | some "q" => false
    | some _ => true
    | none => 1 < paths.length
  let shownName (path : String) : String := if path == "-" then "standard input" else path
  let (j, _) := (if paths.isEmpty then ["-"] else paths).foldl (fun (j, first) path =>
    let heading := (if first then "" else "\n") ++ "==> " ++ shownName path ++ " <==\n"
    match j.read path with
    | (.error .isDirectory, j) =>
      let j := if several then j.send heading else j
      ((j.complain ("error reading " ++ Quote.always (shownName path) ++ ": " ++
        Refusal.isDirectory.detail)).fail 1, false)
    | (.error refusal, j) =>
      ((j.complain ("cannot open " ++ Quote.always path ++ " for reading: " ++
        refusal.detail)).fail 1, first)
    | (.ok text, j) =>
      let j := if several then j.send heading else j
      let shown := part text
      -- What comes after the beginning can still be read if the program can go back.
      let j := if path == "-" && j.seekable && !isEnd && shown.length < text.length then
        { j with input := .ok (dropText shown.length text) } else j
      (j.send shown, false)) (j, true)
  j

/-- The options of `head` and `tail`. -/
def partOptions : Options.Form :=
  ⟨"c:n:qvzfFs:", [("bytes", "c"), ("lines", "n"), ("quiet", "q"), ("silent", "q"),
    ("verbose", "v"), ("zero-terminated", "z"), ("follow", "f::")], false⟩

/-- Shows a part of files, whose extent the options tell. -/
def showExtent (j : Job) (isEnd : Bool) : Job :=
  j.withOptions 1 partOptions fun j given paths =>
    let stop := Lines.stopOf given "z"
    let lines := Options.last? given ["n", "c"] != some "c"
    let text := (Options.value? given (if lines then "n" else "c")).getD "10"
    let others := (if isEnd then "+" else "-").isPrefixOf text
    let number := if "+".isPrefixOf text || "-".isPrefixOf text then dropText 1 text else text
    match count? number with
    | none => (j.complain ("invalid number of " ++ (if lines then "lines" else "bytes") ++ ": " ++
        Quote.always (if others && !isEnd then number else text))).fail 1
    | some n =>
      let part := if isEnd then ending stop else beginning stop
      showParts j given paths (part ⟨lines, n, others⟩) isEnd

/-- `head`: shows the beginning of files. -/
def head (j : Job) : Job :=
  match withCountOption j.call.arguments with
  | .ok arguments => showExtent { j with call := { j.call with arguments } } false
  | .error c => j.misuse ("invalid trailing option -- " ++ String.singleton c) 1

/-- `tail`: shows the end of files. -/
def tail (j : Job) : Job :=
  match oldForm? j.call.arguments with
  | some arguments => showExtent { j with call := { j.call with arguments } } true
  | none =>
    match j.call.arguments.findSome? fun a => match a.toList with
      | '-' :: c :: _ => if c.isDigit then some c else none
      | _ => none with
    | some c => (j.complain ("option used in invalid context -- " ++ String.singleton c)).fail 1
    | none => showExtent j true

/-! ### Counting -/

/-- Lines, words, characters, octets, and the width of the widest line. -/
abbrev Counts := List Nat

/-- What separates words. -/
def isSpace (c : Char) : Bool := c == ' ' || ('\t' ≤ c && c ≤ '\r')

/-- The number of words, and whether one has been begun. -/
def countWords (cs : List Char) : Nat :=
  (cs.foldl (fun (n, inWord) c =>
    if isSpace c then (n, false) else (if inWord then n else n + 1, true)) (0, false)).1

/-- The width of the widest line. -/
def greatestWidth (cs : List Char) : Nat :=
  let (widest, width) := cs.foldl (fun (widest, width) c =>
    if c == '\n' || c == '\r' || c == '\x0c' then (max widest width, 0)
    else if c == '\t' then (widest, width + 8 - width % 8)
    else if ' ' ≤ c && c < '\x7f' then (widest, width + 1)
    else (widest, width)) (0, 0)
  max widest width

/-- The counts of a text. -/
def countsOf (text : String) : Counts :=
  let cs := text.toList
  [(cs.filter (· == '\n')).length, countWords cs, cs.length, cs.length, greatestWidth cs]

/-- `wc`: counts lines, words and octets. -/
def wc (j : Job) : Job :=
  j.withOptions 1 ⟨"clLmw", [("bytes", "c"), ("chars", "m"), ("lines", "l"),
    ("max-line-length", "L"), ("words", "w"), ("total", "total:")], false⟩ fun j given paths =>
    let asked := ["l", "w", "m", "c", "L"].map (Options.has given)
    let wanted := if asked.any id then asked else [true, true, false, true, false]
    let shown (counts : Counts) : List Nat :=
      (counts.zip wanted).filterMap fun (n, w) => if w then some n else none
    let single := paths.length ≤ 1 && (wanted.filter id).length == 1
    let files := if paths.isEmpty then ["-"] else paths
    -- Numbers are as wide as the size of all files together, or seven if one has no size.
    let sizes : List (Option Nat) := files.map fun path =>
      if path == "-" then
        if j.seekable then (match j.input with
          | .ok text => some text.length
          | .error _ => none) else none
      else match j.disk.find j.call.base path with
        | .ok (_, ⟨.file octets, _, _⟩) => some octets.length
        | .ok _ => none
        | .error _ => some 0
    let total := (sizes.filterMap id).foldl (· + ·) 0
    let width := if single then 1
      else max (toString total).length (if sizes.any (·.isNone) then 7 else 1)
    let line (counts : Counts) (name : String) : String :=
      String.intercalate " " ((shown counts).map fun n => padLeft width (toString n)) ++
        (if name == "" then "" else " " ++ name) ++ "\n"
    let (j, sum) := files.foldl (fun (j, sum) path =>
      match j.read path with
      | (.error .isDirectory, j) =>
        let shownPath := if paths.isEmpty then "" else path
        ((j.refuse (if paths.isEmpty then "standard input" else path) .isDirectory 1).send
          (line [0, 0, 0, 0, 0] shownPath), sum)
      | (.error refusal, j) => (j.refuse path refusal 1, sum)
      | (.ok text, j) =>
        let counts := countsOf text
        let sum := (sum.zip counts).zipIdx.map fun ((a, b), i) => if i == 4 then max a b else a + b
        (j.write (line counts (if paths.isEmpty then "" else path)), sum))
      (j, ([0, 0, 0, 0, 0] : Counts))
    if 1 < files.length then j.write (line sum "total") else j

/-! ### Joining -/

/-- What the letters of a list of separators stand for. -/
def separatorList : List Char → List String
  | '\\' :: 'n' :: r => "\n" :: separatorList r
  | '\\' :: 't' :: r => "\t" :: separatorList r
  | '\\' :: '0' :: r => "" :: separatorList r
  | '\\' :: '\\' :: r => "\\" :: separatorList r
  | c :: r => String.singleton c :: separatorList r
  | [] => []

/-- Texts with separators between them, which are taken in turn. -/
def interleave (separators : List String) (texts : List String) : String :=
  let between (i : Nat) : String := separators.getD (i % max 1 separators.length) ""
  String.join (texts.zipIdx.map fun (t, i) => (if i == 0 then "" else between (i - 1)) ++ t)

/-- Rows of the lines of several texts, as many as the longest one has. -/
def rows (columns : List (List String)) : List (List String) :=
  let height := (columns.map List.length).foldl max 0
  (List.range height).map fun i => columns.map fun c => c.getD i ""

/-- `paste`: joins lines. -/
def paste (j : Job) : Job :=
  j.withOptions 1 ⟨"d:sz", [("delimiters", "d"), ("serial", "s"), ("zero-terminated", "z")], false⟩
    fun j given paths =>
      let stop := Lines.stopOf given "z"
      let separators := separatorList ((Options.value? given "d").getD "\t").toList
      let files := if paths.isEmpty then ["-"] else paths
      if Options.has given "s" then
        j.forEachInput paths fun j _ text =>
          j.write ((interleave separators (Lines.split stop text)).push stop)
      else
        -- Files that are the standard input take its lines in turn.
        let shares := (files.filter (· == "-")).length
        let (input, j) := if shares == 0 then (.ok "", j) else j.takeInput
        let lines := match input with
          | .ok text => Lines.split stop text
          | .error _ => []
        let share (k : Nat) : List String :=
          lines.zipIdx.filterMap fun (l, i) => if i % shares == k then some l else none
        let columns := files.foldl (fun (acc : Except (String × Refusal) (List (List String) × Nat))
            path =>
          match acc with
          | .error e => .error e
          | .ok (columns, k) =>
            if path == "-" then .ok (columns ++ [share k], k + 1)
            else match j.disk.read j.call.base path with
              | .ok text => .ok (columns ++ [Lines.split stop text], k)
              | .error refusal => .error (path, refusal)) (.ok ([], 0))
        match columns with
        | .error (path, refusal) => j.refuse path refusal 1
        | .ok (columns, _) =>
          j.write (Lines.join stop ((rows columns).map (interleave separators)))

end Tool

end EnvProfiles
