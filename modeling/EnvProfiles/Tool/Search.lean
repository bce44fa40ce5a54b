import EnvProfiles.Tool.Lines
import EnvProfiles.Tool.Regex

/-!
# Searching Lines

The lines of files in which a pattern is found, or in which it is not. What is
shown are the lines, the parts that match, or only how many lines there are or in
which files; the status tells whether any line was found.

## Main definitions

* `Search`: What is looked for, and what is shown.
* `Search.selects`: Whether a line is selected.
* `Tool.grep`: Shows the lines that are selected.
-/

namespace EnvProfiles

/-- What is looked for, and what is shown. -/
structure Search where
  matchers : List Matcher
  /-- Whether a part has to be a whole word, or a whole line. -/
  words : Bool
  lines : Bool
  inverted : Bool
  /-- Whether the parts that match are shown. -/
  parts : Bool
  numbers : Bool
  offsets : Bool
  counts : Bool
  /-- Whether the names of files are shown in which lines are found, or in which none are. -/
  names : Option Bool
  quiet : Bool
  most : Option Nat
  before : Nat
  after : Nat
  stop : Char
  /-- Whether files are searched that hold null characters. -/
  anything : Bool
  /-- Whether such files count as files without any line that matches. -/
  skipsBinary : Bool
  /-- What stands between groups of lines. -/
  gap : Option String
  /-- Whether a null character follows the names of files. -/
  nulls : Bool

namespace Search

/-- Whether a part of a line counts as a match. -/
def accepts (s : Search) (text : Array Char) (f : Found) : Bool :=
  (!s.lines || (f.start == 0 && f.stop == text.size)) &&
    (!s.words ||
      (!(0 < f.start && (text[f.start - 1]?).any Regex.isWordChar) &&
        !((text[f.stop]?).any Regex.isWordChar)))

/-- The first part of a line that matches, from a place on. -/
def find? (s : Search) (line : Array Char) (start : Nat) : Option Found :=
  let found := s.matchers.filterMap fun m =>
    m.search line (s.accepts line) (line.size + 1 - start) start
  found.foldl (fun best f => match best with
    | none => some f
    | some b => if f.start < b.start || (f.start == b.start && b.stop < f.stop) then some f
      else some b) none

/-- Whether a line is selected. -/
def selects (s : Search) (line : Array Char) : Bool := (s.find? line 0).isSome != s.inverted

/-- The parts of a line that match and hold something. The bound is the length of the line. -/
def partsOf (s : Search) (line : Array Char) : Nat → Nat → List Found
  | 0, _ => []
  | n + 1, start =>
    match s.find? line start with
    | none => []
    | some f =>
      if f.stop == f.start then partsOf s line n (f.start + 1) else f :: partsOf s line n f.stop

/-- A line, with its number and place. -/
structure Line where
  text : String
  number : Nat
  offset : Nat
  selected : Bool

/-- The lines of a text. -/
def linesOf (s : Search) (text : String) : List Line :=
  ((Lines.split s.stop text).foldl (fun (out, number, offset) t =>
    (⟨t, number, offset, s.selects t.toList.toArray⟩ :: out, number + 1, offset + t.length + 1))
    (([] : List Line), 1, 0)).1.reverse

/-- Drops what is not searched any more once enough lines are selected. -/
def limited : Option Nat → List Line → List Line
  | _, [] => []
  | some 0, lines => lines.map fun l => { l with selected := false }
  | most, l :: r => l :: limited (if l.selected then most.map (· - 1) else most) r

/-- A line as it is shown, after the name of its file. -/
def shown (s : Search) (name : Option String) (sign : Char) (l : Line) : String :=
  let mark := String.singleton sign
  let start (offset : Nat) : String :=
    (match name with
      | some n => n ++ (if s.nulls then "\x00" else mark)
      | none => "") ++
    (if s.numbers then toString l.number ++ mark else "") ++
    (if s.offsets then toString offset ++ mark else "")
  if s.parts then
    if sign == '-' || s.inverted then ""
    else
      let chars := l.text.toList.toArray
      String.join ((s.partsOf chars (chars.size + 1) 0).map fun f =>
        (start (l.offset + f.start) ++ f.text chars).push s.stop)
  else (start l.offset ++ l.text).push s.stop

/-- What is shown between groups of lines, if there are lines around those that are found. -/
def gapText (s : Search) : String :=
  match s.gap with
  | some gap => if 0 < s.before + s.after then gap ++ "\n" else ""
  | none => ""

/-- Lines with those around them, in groups with a sign between them. -/
def withContext (s : Search) (name : Option String) (lines : List Line) (any : Bool) : String :=
  let selected := lines.filterMap fun l => if l.selected then some l.number else none
  let near (n : Nat) : Bool := selected.any fun k =>
    (n ≤ k && k ≤ n + s.before) || (k ≤ n && n ≤ k + s.after)
  let wanted := lines.filter fun l => near l.number
  (wanted.foldl (fun (out, last) l =>
    let gap := match last with
      | some k => if k + 1 < l.number then s.gapText else ""
      | none => if any then s.gapText else ""
    (out ++ gap ++ s.shown name (if l.selected then ':' else '-') l, some l.number))
    ("", (none : Option Nat))).1

/-- What is shown of a text, or nothing if that cannot be shown because it is no text, and whether a
line of it is selected. -/
def search (s : Search) (name : String) (several any : Bool) (text : String) :
    Option String × Bool :=
  let isBinary := !s.anything && text.toList.contains '\x00' && s.stop == '\n'
  let lines := limited (if isBinary && s.skipsBinary then some 0 else s.most) (s.linesOf text)
  let count := (lines.filter (·.selected)).length
  let found := 0 < count
  let prefixed := if several then some name else none
  let out :=
    if s.quiet then some ""
    else
      match s.names with
      | some wanted =>
        some (if found == wanted then name.push (if s.nulls then '\x00' else '\n') else "")
      | none =>
        if s.counts then
          let mark := if s.nulls then '\x00' else ':'
          some ((if several then name.push mark else "") ++ toString count ++ "\n")
        else if isBinary && found then none
        else some (withContext s prefixed lines any)
  (out, found)

/-- The notation of expressions in which a letter after a backslash may stand for a class, written
in the extended one. The flag tells whether it is in brackets. -/
def plainNotation : Bool → List Char → List Char
  | _, [] => []
  | inside, '\\' :: c :: r =>
    let digits := "0-9".toList
    let shown : List Char := match c with
      | 'd' => if inside then digits else '[' :: digits ++ [']']
      | 'D' => ['[', '\x5e'] ++ digits ++ [']']
      | 'h' => if inside then [' ', '\t'] else ['[', ' ', '\t', ']']
      | 't' => ['\t']
      | 'n' => ['\n']
      | 'r' => ['\r']
      | 'f' => ['\x0c']
      | 'e' => ['\x1b']
      | 'w' => if inside then "[:alnum:]_".toList else ['\\', 'w']
      | 's' => if inside then "[:space:]".toList else ['\\', 's']
      | c => if inside && !c.isAlphanum && c != ']' && c != '\\' then [c] else ['\\', c]
    shown ++ plainNotation inside r
  | false, '(' :: '?' :: ':' :: r => '(' :: plainNotation false r
  | inside, c :: r =>
    c :: plainNotation (if c == '[' then true else if c == ']' then false else inside) r

end Search

namespace Tool

/-- How `grep` shows that it has been called in a wrong way. -/
def grepMisuse (j : Job) (text : Option String) : Job :=
  let j := match text with
    | some t => j.complain t
    | none => j.flush
  (j.sendTo 2 ("Usage: " ++ j.call.name ++ " [OPTION]... PATTERNS [FILE]...\nTry '" ++
    j.call.name ++ " --help' for more information.\n")).fail 2

/-- The files below a directory, by their paths, but for directories that are not entered. The bound
is on the depth. -/
def filesBelow (d : Disk) (base : Location) (enters : String → Bool) : Nat → String → List String
  | 0, _ => []
  | n + 1, path =>
    match d.find base path with
    | .ok (place, ⟨.directory, _, _⟩) =>
      (d.children place).flatMap fun name =>
        let inner := if "/".toList.isSuffixOf path.toList then path ++ name else path ++ "/" ++ name
        match d.findName base inner with
        | .ok (_, ⟨.directory, _, _⟩) =>
          if enters name then filesBelow d base enters n inner else []
        | .ok (_, ⟨.file _, _, _⟩) => [inner]
        | _ => []
    | _ => [path]

/-- The options of `grep`. -/
def grepOptions : Options.Form :=
  ⟨"EFGPe:f:iyvwxcLlqsonbHhm:rRA:B:C:zaUITZd:D:0123456789", [("extended-regexp", "E"),
    ("fixed-strings", "F"), ("basic-regexp", "G"), ("perl-regexp", "P"), ("regexp", "e"),
    ("file", "f"), ("ignore-case", "i"), ("no-ignore-case", "no-ignore-case"),
    ("invert-match", "v"), ("word-regexp", "w"), ("line-regexp", "x"), ("count", "c"),
    ("files-without-match", "L"), ("files-with-matches", "l"), ("quiet", "q"), ("silent", "q"),
    ("no-messages", "s"), ("only-matching", "o"), ("line-number", "n"), ("byte-offset", "b"),
    ("with-filename", "H"), ("no-filename", "h"), ("max-count", "m"), ("recursive", "r"),
    ("dereference-recursive", "R"), ("after-context", "A"), ("before-context", "B"),
    ("context", "C"), ("null-data", "z"), ("text", "a"), ("color", "color::"),
    ("colour", "color::"), ("include", "include:"), ("exclude", "exclude:"),
    ("exclude-dir", "exclude-dir:"), ("directories", "d"), ("devices", "D"),
    ("line-buffered", "line-buffered"), ("label", "label:"),
    ("no-group-separator", "no-group-separator"), ("group-separator", "group-separator:"),
    ("binary-files", "binary-files:"), ("binary", "U"), ("initial-tab", "T"), ("null", "Z")],
    false⟩

/-- The names of the notations, of which the last one counts. -/
def notationOptions : List String := ["E", "F", "G", "P"]

/-- Searches files. -/
def grepWith (own : Option String) (j : Job) : Job :=
  match Options.read grepOptions j.call.arguments with
  | .error message => grepMisuse j (some message)
  | .ok (given, operands) =>
    if Options.has given "help" || Options.has given "version" then j
    else
      let has := Options.has given
      let fromFiles := given.filterMap fun (k, v) => if k == "f" then v else none
      let direct := given.filterMap fun (k, v) => if k == "e" then v else none
      let (filePatterns, j) := fromFiles.foldl (fun (out, j) path =>
        match j.read path with
        | (.ok text, j) => (out ++ Lines.split '\n' text, j)
        | (.error refusal, j) => (out, (j.complain (path ++ ": " ++ refusal.detail)).fail 2))
        (([] : List String), j)
      if j.status == 2 then j
      else
        let explicit := !direct.isEmpty || !fromFiles.isEmpty
        match explicit, operands with
        | false, [] => grepMisuse j none
        | _, _ =>
          let patterns :=
            (if explicit then direct else operands.take 1).flatMap
              (fun p => (splitAt '\n' p.toList).map String.ofList) ++ filePatterns
          let files := if explicit then operands else operands.drop 1
          go j given has patterns files
where
  /-- Does the work with what is looked for and where. -/
  go (j : Job) (given : List Options.Given) (has : String → Bool) (patterns files : List String) :
      Job :=
    let style := ((Options.last? given notationOptions).orElse fun _ => own).getD "G"
    let ignoresCase := has "i" || has "y"
    let compiled : Except String (List Matcher) := patterns.mapM fun p =>
      if style == "F" then .ok (Matcher.ofPlain ignoresCase p)
      else
        let dialect := if style == "G" then Regex.Dialect.basic else Regex.Dialect.extended
        let text := if style == "P" then String.ofList (Search.plainNotation false p.toList) else p
        match Matcher.ofText ⟨dialect, ignoresCase, false⟩ text with
        | .ok m => if m.looksWrong then .error Matcher.wrongClass else .ok m
        | .error message => .error message
    let number (key : String) : Option Nat := (Options.value? given key).bind String.toNat?
    let fault := given.findSome? fun ((k, v) : Options.Given) =>
      let text := v.getD ""
      if (if k == "m" then text.toInt?.isSome else text.toNat?.isSome) then none
      else if ["A", "B", "C"].contains k then some (text ++ ": invalid context length argument")
      else if k == "m" then some "invalid max count"
      else none
    let digits := String.join (given.filterMap fun (k, _) =>
      if k.toList.all Char.isDigit then some k else none)
    let around := ((number "C").orElse fun _ => digits.toNat?).getD 0
    match fault, compiled with
    | some message, _ => (j.complain message).fail 2
    | none, .error message => (j.complain message).fail 2
    | none, .ok matchers =>
      let s : Search :=
        { matchers, words := has "w", lines := has "x", inverted := has "v", parts := has "o"
          numbers := has "n", offsets := has "b", counts := has "c"
          names := (Options.last? given ["l", "L"]).map (· == "l")
          quiet := has "q", most := number "m"
          before := (number "B").getD around, after := (number "A").getD around
          stop := if has "z" then '\x00' else '\n'
          anything := has "a" || Options.value? given "binary-files" == some "text"
          skipsBinary := has "I" || Options.value? given "binary-files" == some "without-match"
          nulls := has "Z"
          gap := match Options.last? given ["no-group-separator", "group-separator"] with
            | some "group-separator" => Options.value? given "group-separator"
            | some _ => none
            | none => some "--" }
      let recursive := has "r" || has "R" || Options.value? given "d" == some "recurse"
      let paths := if files.isEmpty then (if recursive then ["."] else ["-"]) else files
      let includes := given.filterMap fun (k, v) => if k == "include" then v else none
      let excludes := given.filterMap fun (k, v) => if k == "exclude" then v else none
      let left := given.filterMap fun (k, v) => if k == "exclude-dir" then v else none
      let covers (globs : List String) (path : String) : Bool :=
        let name := (String.ofList (path.toList.reverse.takeWhile (· != '/')).reverse)
        globs.any fun g => Shell.Pattern.covers g.toList name.toList
      let allPaths := paths.flatMap fun path =>
        if recursive && path != "-" && j.disk.isDirectory j.call.base path then
          ((filesBelow j.disk j.call.base (fun name => !covers left name) 64 path).map fun p =>
            if files.isEmpty then dropText 2 p else p).filter fun p =>
              (includes.isEmpty || covers includes p) && !covers excludes p
        else if Options.value? given "d" == some "skip" &&
          j.disk.isDirectory j.call.base path then []
        else [path]
      let several := match Options.last? given ["H", "h"] with
        | some k => k == "H"
        | none => recursive || 1 < paths.length
      let (j, found) := allPaths.foldl (fun (j, found) path =>
        if s.quiet && found then (j, found)
        else
          match j.read path with
          | (.error refusal, j) =>
            let j := if has "s" then j else j.complain (path ++ ": " ++ refusal.detail)
            (j.fail 2, found)
          | (.ok text, j) =>
            let name := if path == "-" then
              (Options.value? given "label").getD "(standard input)" else path
            match s.search name several (found && !s.counts) text with
            | (some out, here) => (j.write out, found || here)
            | (none, here) => (j.complain (name ++ ": binary file matches"), found || here))
        (j, false)
      if s.quiet && found then { j with status := 0 }
      else if j.status == 0 && !found then j.fail 1
      else j

/-- `grep`: searches files. -/
def grep (j : Job) : Job := grepWith none j

end Tool

end EnvProfiles
