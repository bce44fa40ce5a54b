import EnvProfiles.Tool.Listing

/-!
# Comparing Files

Where two files differ: the first octet, or the lines that have to be removed,
added and changed to get from one to the other. Lines that stay are a longest
row of lines that both files have in common.

## Main definitions

* `Compare.changes`: The changes that lead from one row of lines to another.
* `Tool.cmp`, `Tool.diff`: Show where files differ.
-/

namespace EnvProfiles

namespace Compare

/-- A change: lines from a place on that are removed, and lines from a place on that are added. -/
structure Change where
  left : Nat
  removed : Nat
  right : Nat
  added : Nat
deriving DecidableEq, Repr

/-- How many lines two rows have in common from each place of the second one on, given those for the
first row without its first line. -/
def rowOf (a : String) (ys : List String) (below : List Nat) : List Nat :=
  ((ys.zip (below.zip (below.drop 1 ++ [0]))).foldr (fun (y, here, next) acc =>
    let right := acc.headD 0
    (if a == y then next + 1 else max here right) :: acc) [0])

/-- How many lines the rows have in common from each pair of places on. -/
def table (xs ys : List String) : Array (Array Nat) :=
  let last := List.replicate (ys.length + 1) 0
  let rows := xs.foldr (fun x acc => rowOf x ys (acc.headD last) :: acc) [last]
  (rows.map List.toArray).toArray

/-- The lines that are removed and added, one by one: places in both rows, and whether one is
passed alone. The bound is the length of both. -/
def path (t : Array (Array Nat)) (xs ys : Array String) : Nat → Nat → Nat → List (Nat × Nat × Bool)
  | 0, _, _ => []
  | n + 1, i, j =>
    let common (i j : Nat) : Nat := (t.getD i #[]).getD j 0
    match xs[i]?, ys[j]? with
    | none, none => []
    | some _, none => (i, j, true) :: path t xs ys n (i + 1) j
    | none, some _ => (i, j, false) :: path t xs ys n i (j + 1)
    | some x, some y =>
      if x == y && common i j == common (i + 1) (j + 1) + 1 then path t xs ys n (i + 1) (j + 1)
      else if common i j == common (i + 1) j then (i, j, true) :: path t xs ys n (i + 1) j
      else (i, j, false) :: path t xs ys n i (j + 1)

/-- Steps that follow each other, as one change. -/
def gather : List (Nat × Nat × Bool) → List Change
  | [] => []
  | (i, j, removes) :: r =>
    let one : Change := if removes then ⟨i, 1, j, 0⟩ else ⟨i, 0, j, 1⟩
    match gather r with
    | c :: cs =>
      if one.left + one.removed == c.left && one.right + one.added == c.right then
        ⟨one.left, one.removed + c.removed, one.right, one.added + c.added⟩ :: cs
      else one :: c :: cs
    | [] => [one]

/-- The changes that lead from one row of lines to another. -/
def changes (xs ys : List String) : List Change :=
  gather (path (table xs ys) xs.toArray ys.toArray (xs.length + ys.length + 1) 0 0)

/-- Lines of a file with a sign before them, with a note if the last one has no end. -/
def signed (sign : String) (lines : List String) (first : Nat) (total : Nat) (ended : Bool) :
    String :=
  String.join (lines.zipIdx.map fun (l, i) =>
    sign ++ l ++ "\n" ++
      if first + i + 1 == total && !ended then "\\ No newline at end of file\n" else "")

/-- A range of lines. -/
def rangeText (first count : Nat) : String :=
  if count ≤ 1 then toString (first + count)
  else toString (first + 1) ++ "," ++ toString (first + count)

/-- A file that is compared: its lines as they are shown and as they are compared, and whether the
last one has an end. -/
structure Side where
  lines : List String
  keys : List String
  ended : Bool

/-- Changes as they are usually shown. -/
def normal (a b : Side) (cs : List Change) : String :=
  String.join (cs.map fun c =>
    let letter := if c.removed == 0 then "a" else if c.added == 0 then "d" else "c"
    rangeText c.left c.removed ++ letter ++ rangeText c.right c.added ++ "\n" ++
      signed "< " ((a.lines.drop c.left).take c.removed) c.left a.lines.length a.ended ++
      (if letter == "c" then "---\n" else "") ++
      signed "> " ((b.lines.drop c.right).take c.added) c.right b.lines.length b.ended)

/-- Changes that are so near to each other that the lines between them are shown once. -/
def hunks (context : Nat) : List Change → List (List Change)
  | [] => []
  | c :: cs =>
    match hunks context cs with
    | (d :: g) :: gs =>
      if d.left ≤ c.left + c.removed + 2 * context then (c :: d :: g) :: gs
      else [c] :: (d :: g) :: gs
    | gs => [c] :: gs

/-- A range of lines in the heading of a hunk. -/
def hunkRange (first count : Nat) : String :=
  if count == 1 then toString (first + 1)
  else toString (if count == 0 then first else first + 1) ++ "," ++ toString count

/-- Changes with the lines around them. -/
def unified (context : Nat) (a b : Side) (cs : List Change) : String :=
  String.join ((hunks context cs).map fun g =>
    match g.head?, g.getLast? with
    | some first, some last =>
      let start := first.left - context
      let stop := min a.lines.length (last.left + last.removed + context)
      let startRight := first.right - (first.left - start)
      let stopRight := last.right + last.added + (stop - (last.left + last.removed))
      let same (i j : Nat) : String :=
        signed " " ((a.lines.drop i).take (j - i)) i a.lines.length a.ended
      let (body, place) := g.foldl (fun (out, place) c =>
        (out ++ same place c.left ++
          signed "-" ((a.lines.drop c.left).take c.removed) c.left a.lines.length a.ended ++
          signed "+" ((b.lines.drop c.right).take c.added) c.right b.lines.length b.ended,
          c.left + c.removed)) ("", start)
      "@@ -" ++ hunkRange start (stop - start) ++ " +" ++
        hunkRange startRight (stopRight - startRight) ++ " @@\n" ++ body ++ same place stop
    | _, _ => "")

/-- A range of lines in the heading of a part of a hunk. -/
def partRange (first count : Nat) : String :=
  if count ≤ 1 then toString (first + count)
  else toString (first + 1) ++ "," ++ toString (first + count)

/-- Changes with the lines around them, each side on its own. -/
def sideBySide (context : Nat) (a b : Side) (cs : List Change) : String :=
  -- One side of a hunk: its lines with signs, up to the end of the last change.
  let part (s : Side) (sign : String) (start stop : Nat) (g : List (Nat × Nat × Bool)) : String :=
    let same (i j : Nat) : String :=
      signed "  " ((s.lines.drop i).take (j - i)) i s.lines.length s.ended
    let (body, place) := g.foldl (fun (out, place) (first, count, both) =>
      (out ++ same place first ++ signed (if both then "! " else sign)
        ((s.lines.drop first).take count) first s.lines.length s.ended, first + count)) ("", start)
    body ++ same place stop
  String.join ((hunks context cs).map fun g =>
    match g.head?, g.getLast? with
    | some first, some last =>
      let start := first.left - context
      let stop := min a.lines.length (last.left + last.removed + context)
      let startRight := first.right - (first.left - start)
      let stopRight := last.right + last.added + (stop - (last.left + last.removed))
      let lefts := g.map fun c => (c.left, c.removed, c.removed != 0 && c.added != 0)
      let rights := g.map fun c => (c.right, c.added, c.removed != 0 && c.added != 0)
      "***************\n*** " ++ partRange start (stop - start) ++ " ****\n" ++
        (if g.all fun c => c.removed == 0 then "" else part a "- " start stop lefts) ++
        "--- " ++ partRange startRight (stopRight - startRight) ++ " ----\n" ++
        (if g.all fun c => c.added == 0 then "" else part b "+ " startRight stopRight rights)
    | _, _ => "")

/-- Changes as commands for a line editor, the last one first. -/
def commands (b : Side) (cs : List Change) : String :=
  String.join (cs.reverse.map fun c =>
    let added := (b.lines.drop c.right).take c.added
    let letter := if c.removed == 0 then "a" else if c.added == 0 then "d" else "c"
    rangeText c.left c.removed ++ letter ++ "\n" ++
      (if added.isEmpty then "" else String.join (added.map (· ++ "\n")) ++ ".\n"))

/-- Changes as commands that tell how many lines are meant. -/
def countedCommands (b : Side) (cs : List Change) : String :=
  String.join (cs.map fun c =>
    (if c.removed == 0 then ""
      else "d" ++ toString (c.left + 1) ++ " " ++ toString c.removed ++ "\n") ++
    (if c.added == 0 then ""
      else "a" ++ toString (c.left + c.removed) ++ " " ++ toString c.added ++ "\n" ++
        String.join (((b.lines.drop c.right).take c.added).map (· ++ "\n"))))

/-- Whether a change is about nothing but lines without text. -/
def isBlankChange (a b : Side) (c : Change) : Bool :=
  ((a.lines.drop c.left).take c.removed ++ (b.lines.drop c.right).take c.added).all (· == "")

end Compare

namespace Tool

/-- Says that a call is wrong, with the name of the program before each line. -/
def namedMisuse (j : Job) (text : String) : Job :=
  ((j.complain text).complain ("Try '" ++ j.call.name ++ " --help' for more information.")).fail 2

/-- Does the work of a program with its options read. -/
def withNamedHelp (j : Job) (form : Options.Form)
    (work : Job → List Options.Given → List String → Job) : Job :=
  match Options.read form j.call.arguments with
  | .error message => namedMisuse j message
  | .ok (given, others) =>
    if Options.has given "help" || Options.has given "version" then j else work j given others

/-- Two texts up to where they differ: how many octets and line feeds that is. -/
def commonStart : List Char → List Char → Nat → Nat → Nat × Nat × List Char × List Char
  | x :: a, y :: b, n, l =>
    if x == y then commonStart a b (n + 1) (if x == '\n' then l + 1 else l)
    else (n, l, x :: a, y :: b)
  | a, b, n, l => (n, l, a, b)

/-- `cmp`: shows the first octet at which two files differ. -/
def cmp (j : Job) : Job :=
  withNamedHelp j ⟨"bi:ln:sv", [("print-bytes", "b"), ("ignore-initial", "i"), ("verbose", "l"),
    ("bytes", "n"), ("silent", "s"), ("quiet", "s")], false⟩ fun j given operands =>
    let has := Options.has given
    let octal (c : Char) : String := padLeft 3 (octalText c.toNat)
    match operands with
    | [] => namedMisuse j ("missing operand after " ++ q j.call.name)
    | a :: more =>
      let b := more.head?.getD "-"
      let skip := ((Options.value? given "i").bind count?).getD 0
      let limit := (Options.value? given "n").bind count?
      let refused (j : Job) (path : String) (refusal : Refusal) : Job :=
        if has "s" then j.fail 2 else (j.complain (path ++ ": " ++ refusal.detail)).fail 2
      match j.read a with
      | (.error refusal, j) => refused j a refusal
      | (.ok first, j) =>
        match j.read b with
        | (.error refusal, j) => refused j b refusal
        | (.ok second, j) =>
          let cut (t : String) : List Char :=
            let cs := t.toList.drop skip
            match limit with
            | some n => cs.take n
            | none => cs
          let (xs, ys) := (cut first, cut second)
          let (n, l, restX, restY) := commonStart xs ys 0 0
          let ends (j : Job) (path : String) (n l : Nat) (lastEnds : Bool) : Job :=
            if has "s" then j
            else if n == 0 then j.complain ("EOF on " ++ path ++ " which is empty")
            else if has "l" then j.complain ("EOF on " ++ path ++ " after byte " ++ toString n)
            else j.complain ("EOF on " ++ path ++ " after byte " ++ toString n ++
              (if lastEnds then ", line " ++ toString l else ", in line " ++ toString (l + 1)))
          if has "l" then
            let pairs := ((xs.zip ys).zipIdx).filter fun ((x, y), _) => x != y
            let width := (toString (max xs.length ys.length)).length
            let shown (c : Char) : String :=
              octal c ++ if has "b" then " " ++ String.ofList (revealed c) else ""
            let j := if has "s" then j else j.forEach pairs fun j ((x, y), i) =>
              let first := if has "b" then padRight 9 (shown x) else shown x
              j.write (padLeft width (toString (i + 1)) ++ " " ++ first ++
                (if has "b" then "" else " ") ++ shown y ++ "\n")
            let j := if pairs.isEmpty then j else j.fail 1
            if xs.length == ys.length then j
            else (ends j (if xs.length < ys.length then a else b) (min xs.length ys.length) l
              false).fail 1
          else
            match restX, restY with
            | [], [] => j
            | [], _ => (ends j a n l (xs.getLast? == some '\n')).fail 1
            | _, [] => (ends j b n l (ys.getLast? == some '\n')).fail 1
            | x :: _, y :: _ =>
              let shown (c : Char) : String := octal c ++ " " ++ String.ofList (revealed c)
              let j := if has "s" then j
                else j.write (a ++ " " ++ b ++ " differ: " ++
                  (if has "b" then "byte " else "char ") ++
                  toString (n + 1) ++ ", line " ++ toString (l + 1) ++
                  (if has "b" then " is " ++ shown x ++ " " ++ shown y else "") ++ "\n")
              j.fail 1

/-- A line as `diff` compares it. -/
def diffKey (given : List Options.Given) (line : String) : String :=
  let cs := line.toList
  let cs := if Options.has given "i" then cs.map Char.toLower else cs
  let cs := if Options.has given "Z" then (cs.reverse.dropWhile isSpace).reverse else cs
  let cs := if Options.has given "w" then cs.filter fun c => !isSpace c
    else if Options.has given "b" then
      (cs.foldl (fun (acc : List Char) c =>
        if isSpace c then (if acc.head? == some ' ' then acc else ' ' :: acc) else c :: acc)
        []).dropWhile (· == ' ') |>.reverse
    else cs
  String.ofList cs

/-- Compares two files, or two directories if that is asked for. The bound is on the depth. -/
def diffPaths (given : List Options.Given) : Nat → Job → String → String → Bool → Job
  | 0, j, _, _, _ => j
  | n + 1, j, a, b, nested =>
    let has := Options.has given
    let place (path : String) : Option Location :=
      (j.disk.find j.call.base path).toOption.bind fun f =>
        if f.2.content == .directory && path != "-" then some f.1 else none
    match place a, place b with
    | some p, some r =>
      let names := ((j.disk.children p ++ j.disk.children r).eraseDups).mergeSort fun x y => x ≤ y
      names.foldl (fun j name =>
        let inner (d : String) : String := entryPath d name
        let isThere (d : Location) : Bool := (j.disk.node? (d ++ [name])).isSome
        let isDirectory (d : Location) : Bool := j.disk.content? (d ++ [name]) == some .directory
        if !isThere p then (j.write ("Only in " ++ b ++ ": " ++ name ++ "\n")).fail 1
        else if !isThere r then (j.write ("Only in " ++ a ++ ": " ++ name ++ "\n")).fail 1
        else if isDirectory p && isDirectory r && !has "r" then
          j.write ("Common subdirectories: " ++ inner a ++ " and " ++ inner b ++ "\n")
        else diffPaths given n j (inner a) (inner b) true) j
    | some _, none => diffPaths given n j (entryPath a (baseName b)) b nested
    | none, some _ => diffPaths given n j a (entryPath b (baseName a)) nested
    | none, none =>
      let refused (j : Job) (path : String) (refusal : Refusal) : Job :=
        (j.complain (path ++ ": " ++ refusal.detail)).fail 2
      -- A file that is missing may count as an empty one, if the other one is there.
      let isThere (path : String) : Bool := path == "-" || j.disk.contains j.call.base path
      let read (j : Job) (path other : String) : Except Refusal String × Job :=
        match j.read path with
        | (.error .absent, j) =>
          if has "N" && isThere other then (.ok "", j) else (.error .absent, j)
        | found => found
      match read j a b, j.disk.find j.call.base b with
      | (.error refusal, j), other =>
        let j := refused j a refusal
        match other with
        | .error refusal => if b == "-" then j else refused j b refusal
        | .ok _ => j
      | (.ok first, j), _ =>
        match read j b a with
        | (.error refusal, j) => refused j b refusal
        | (.ok second, j) =>
          let isBinary := !has "a" && (first ++ second).toList.contains '\x00'
          let side (t : String) : Compare.Side :=
            let lines := Lines.split '\n' t
            let ended := t == "" || t.toList.getLast? == some '\n'
            ⟨lines, lines.zipIdx.map fun (l, i) =>
              diffKey given l ++ if !ended && i + 1 == lines.length then "\x00" else "", ended⟩
          let (x, y) := (side first, side second)
          if x.keys == y.keys then
            if has "s" then j.write ("Files " ++ a ++ " and " ++ b ++ " are identical\n") else j
          else if isBinary && !has "q" then
            (j.write ("Binary files " ++ a ++ " and " ++ b ++ " differ\n")).fail 1
          else
            let all := Compare.changes x.keys y.keys
            -- Changes that are only about blank lines may not count, unless they are shown with
            -- others.
            let ignored (c : Compare.Change) : Bool := has "B" && Compare.isBlankChange x y c
            let kept (context : Nat) : List Compare.Change :=
              ((Compare.hunks context all).filter fun g => !g.all ignored).flatten
            if all.all ignored then
              if has "s" then j.write ("Files " ++ a ++ " and " ++ b ++ " are identical\n") else j
            else if has "q" then (j.write ("Files " ++ a ++ " and " ++ b ++ " differ\n")).fail 1
            else
            let context := ((Options.value? given "U").bind String.toNat?).getD 3
            let contextBoth := ((Options.value? given "C").bind String.toNat?).getD 3
            let stamp (path : String) : String :=
              match (j.disk.find j.call.base path).toOption with
              | some f => String.ofList ((Date.ofSeconds (f.2.changed / 1000000000)).format
                  (f.2.changed % 1000000000) "\t%Y-%m-%d %H:%M:%S.%N %z".toList)
              | none => "\t1970-01-01 00:00:00.000000000 +0000"
            let options := String.join ((j.call.arguments.filter fun o =>
              "-".isPrefixOf o && o != "-").map (· ++ " "))
            let heading := if nested then "diff " ++ options ++ a ++ " " ++ b ++ "\n" else ""
            let labels := given.filterMap fun (k, v) => if k == "label" then v else none
            let body :=
              if has "u" || has "U" then
                "--- " ++ (labels[0]?).getD (a ++ stamp a) ++ "\n+++ " ++
                  (labels[1]?).getD (b ++ stamp b) ++ "\n" ++
                  Compare.unified context x y (kept context)
              else if has "c" || has "C" then
                "*** " ++ (labels[0]?).getD (a ++ stamp a) ++ "\n--- " ++
                  (labels[1]?).getD (b ++ stamp b) ++ "\n" ++
                  Compare.sideBySide contextBoth x y (kept contextBoth)
              else if has "e" then Compare.commands y (all.filter fun c => !ignored c)
              else if has "n" then Compare.countedCommands y (all.filter fun c => !ignored c)
              else Compare.normal x y (all.filter fun c => !ignored c)
            (j.write (heading ++ body)).fail 1

/-- `diff`: shows where two files differ. -/
def diff (j : Job) : Job :=
  withNamedHelp j ⟨"abBdeinNqrstuU:wyZC:cL:", [("brief", "q"), ("report-identical-files", "s"),
    ("unified", "unified::"), ("context", "context::"), ("ed", "e"), ("rcs", "n"),
    ("ignore-trailing-space", "Z"), ("ignore-case", "i"), ("ignore-all-space", "w"),
    ("ignore-space-change", "b"), ("ignore-blank-lines", "B"), ("recursive", "r"), ("label",
    "label:"), ("text", "a"), ("new-file", "N"), ("color", "color::")], false⟩
    fun j given operands =>
    let given := given.flatMap fun (k, v) =>
      if k == "unified" then (match v with
        | some _ => [("U", v)]
        | none => [("u", none)])
      else if k == "context" then (match v with
        | some _ => [("C", v)]
        | none => [("c", none)])
      else if k == "L" then [("label", v)]
      else [(k, v)]
    match operands with
    | [] => namedMisuse j ("missing operand after " ++ q j.call.name)
    | [a] => namedMisuse j ("missing operand after " ++ q a)
    | [a, b] => diffPaths given depthBound j a b false
    | _ :: _ :: extra :: _ => namedMisuse j ("extra operand " ++ q extra)

end Tool

end EnvProfiles
