import EnvProfiles.Tool.Lines
import EnvProfiles.Tool.Regex

/-!
# Laying Out Lines

The programs that turn lines round, number them, break them, and put blanks in
place of tabs or tabs in place of blanks.

Where tabs lead is told by tab stops: either one distance, or a list of columns
after the last of which a tab is a single blank.

## Main definitions

* `Tool.tac`, `Tool.rev`: Turn the order of lines, and lines themselves.
* `Tool.nl`: Numbers the lines of pages, which have a head, a body and a foot.
* `Tool.fold`: Breaks lines.
* `Tool.expand`, `Tool.unexpand`: Take tabs out of lines, and put them in.
-/

namespace EnvProfiles.Tool

/-! ### Turning -/

/-- Where separators are in a text: each with its start and its end. The bound is the length of the
text. -/
def separatorsIn (isAt : Nat → Option Nat) (size : Nat) : Nat → Nat → List (Nat × Nat)
  | 0, _ => []
  | n + 1, k =>
    if size ≤ k then []
    else
      match isAt k with
      | some stop =>
        if k < stop then (k, stop) :: separatorsIn isAt size n stop
        else separatorsIn isAt size n (k + 1)
      | none => separatorsIn isAt size n (k + 1)

/-- A text cut at places. -/
def cutAt (text : Array Char) (places : List Nat) : List String :=
  let ends := places ++ [text.size]
  ((0 :: places).zip ends).map fun (a, b) => String.ofList (text.extract a b).toList

/-- A text with its pieces in the opposite order. A separator belongs to the piece before it, or to
the one after it. -/
def turned (text : String) (isAt : Array Char → Nat → Option Nat) (before : Bool) : String :=
  let chars := text.toList.toArray
  let found := separatorsIn (isAt chars) chars.size (chars.size + 1) 0
  String.join (cutAt chars (found.map fun s => if before then s.1 else s.2)).reverse

/-- `tac`: shows lines, the last one first. -/
def tac (j : Job) : Job :=
  j.withOptions 1 ⟨"brs:", [("before", "b"), ("regex", "r"), ("separator", "s")], false⟩
    fun j given paths =>
      let separator := match Options.value? given "s" with
        | none => "\n"
        | some "" => "\x00"
        | some s => s
      let matcher : Except String Matcher :=
        if Options.has given "r" then Matcher.ofText ⟨.basic, false, false⟩ separator
        else .ok (Matcher.ofPlain false separator)
      match matcher with
      | .error message => (j.complain message).fail 1
      | .ok m =>
        let isAt (text : Array Char) (k : Nat) : Option Nat :=
          (m.search text (fun f => f.start == k) 1 k).bind fun f =>
            if f.start == k then some f.stop else none
        j.forEach (if paths.isEmpty then ["-"] else paths) fun j path =>
          match j.read path with
          | (.error .isDirectory, j) => ((j.complain (path ++ ": read error: " ++
              Refusal.isDirectory.detail)).fail 1)
          | (.error refusal, j) => (j.complain ("failed to open " ++ Quote.always path ++
              " for reading: " ++ refusal.detail)).fail 1
          | (.ok text, j) => j.write (turned text isAt (Options.has given "b"))

/-- `rev`: shows lines with their characters turned round. -/
def rev (j : Job) : Job :=
  j.withOptions 1 ⟨"0", [("zero", "0")], false⟩ fun j _ paths =>
    j.forEach (if paths.isEmpty then ["-"] else paths) fun j path =>
      match j.read path with
      | (.error refusal, j) => (j.complain ("cannot open " ++ path ++ ": " ++
          refusal.detail)).fail 1
      | (.ok text, j) => j.write (String.join ((Lines.pieces '\n' text).map fun line =>
          let body := Lines.body '\n' line
          String.ofList body.toList.reverse ++ dropText body.length line))

/-! ### Numbering -/

/-- Which lines are numbered. -/
inductive Numbering where
  | all
  | filled
  | none
  | matching (matcher : Matcher)

/-- How the lines of a part of a page are numbered, or what is wrong with the text that tells it. -/
def Numbering.ofText (part text : String) : Except (String × Bool) Numbering :=
  match text.toList with
  | ['a'] => .ok .all
  | ['t'] => .ok .filled
  | ['n'] => .ok .none
  | 'p' :: regex =>
    match Matcher.ofText ⟨.basic, false, false⟩ (String.ofList regex) with
    | .ok m => .ok (.matching m)
    | .error message => .error (message, false)
  | _ => .error ("invalid " ++ part ++ " numbering style: " ++ Quote.always text, true)

/-- How lines are numbered. -/
structure Numbers where
  head : Numbering
  body : Numbering
  foot : Numbering
  /-- The two characters that the lines are made of which separate the parts of pages. -/
  mark : String
  first : Int
  step : Int
  width : Nat
  format : String
  separator : String
  /-- How many lines without text count as one. -/
  blanks : Nat
  /-- Whether the numbers go on from page to page. -/
  goesOn : Bool

/-- A number as it is shown before a line. -/
def Numbers.shown (s : Numbers) (n : Int) : String :=
  let digits := toString n.natAbs
  let sign := if n < 0 then "-" else ""
  match s.format with
  | "ln" => padRight s.width (sign ++ digits)
  | "rz" => sign ++ String.ofList (List.replicate (s.width - sign.length - digits.length) '0') ++
      digits
  | _ => padLeft s.width (sign ++ digits)

/-- Where numbering has come to: the next number, how the lines of this part are numbered, and how
many lines without text have come one after the other. -/
structure NumberingState where
  next : Int
  style : Numbering
  blank : Nat

/-- What is shown for a line. -/
def Numbers.line (s : Numbers) (state : NumberingState) (line : String) :
    String × NumberingState :=
  let part (style : Numbering) : String × NumberingState :=
    ("\n", { state with style, next := if s.goesOn then state.next else s.first })
  if s.mark != "" && line == s.mark ++ s.mark ++ s.mark then part s.head
  else if s.mark != "" && line == s.mark ++ s.mark then part s.body
  else if s.mark != "" && line == s.mark then part s.foot
  else
    let isBlank := line == ""
    let blank := if isBlank then state.blank + 1 else 0
    let counts := match state.style with
      | .all => !isBlank || s.blanks ≤ 1 || blank == s.blanks
      | .filled => !isBlank
      | .none => false
      | .matching m => (m.find? line.toList.toArray 0).isSome
    let state := { state with blank := if blank == s.blanks then 0 else blank }
    if counts then
      (s.shown state.next ++ s.separator ++ line ++ "\n",
        { state with next := state.next + s.step })
    else
      let blanks := List.replicate (s.width + s.separator.length) ' '
      (String.ofList blanks ++ line ++ "\n", state)

/-- `nl`: numbers lines. -/
def nl (j : Job) : Job :=
  j.withOptions 1 ⟨"b:h:f:n:s:v:w:i:l:pd:", [("body-numbering", "b"), ("header-numbering", "h"),
    ("footer-numbering", "f"), ("number-format", "n"), ("number-separator", "s"),
    ("starting-line-number", "v"), ("number-width", "w"), ("line-increment", "i"),
    ("join-blank-lines", "l"), ("no-renumber", "p"), ("section-delimiter", "d")], false⟩
    fun j given paths =>
    let value (key standard : String) : String := (Options.value? given key).getD standard
    let number (key : String) (standard : Int) (what : String) : Except (String × Bool) Int :=
      match Options.value? given key with
      | none => .ok standard
      | some text =>
        let isCount := key == "w" || key == "l"
        match text.toInt? with
        | some n =>
          if isCount && n < 1 then
            .error ("invalid " ++ what ++ ": " ++ Quote.always text ++
              ": Numerical result out of range", false)
          else .ok n
        | none => .error ("invalid " ++ what ++ ": " ++ Quote.always text, false)
    let settings : Except (String × Bool) Numbers := do
      let head ← Numbering.ofText "header" (value "h" "n")
      let body ← Numbering.ofText "body" (value "b" "t")
      let foot ← Numbering.ofText "footer" (value "f" "n")
      let first ← number "v" 1 "starting line number"
      let step ← number "i" 1 "line number increment"
      let blanks ← number "l" 1 "line number of blank lines"
      let width ← number "w" 6 "line number field width"
      let format := value "n" "rn"
      if !(["ln", "rn", "rz"].contains format) then
        throw ("invalid line numbering format: " ++ Quote.always format, true)
      let mark := value "d" "\\:"
      return ⟨head, body, foot, if mark.length == 1 then mark ++ ":" else mark, first, step,
        width.toNat, format, value "s" "\t", blanks.toNat, Options.has given "p"⟩
    match settings with
    | .error (message, true) => j.misuse message 1
    | .error (message, false) => (j.complain message).fail 1
    | .ok s =>
      ((if paths.isEmpty then ["-"] else paths).foldl (fun (j, state) (path : String) =>
        match j.read path with
        | (.error refusal, j) => (j.refuse path refusal 1, state)
        | (.ok text, j) =>
          (Lines.split '\n' text).foldl (fun (j, state) line =>
            let (out, state) := s.line state line
            (j.write out, state)) (j, state)) (j, (⟨s.first, s.body, 0⟩ : NumberingState))).1

/-! ### Breaking -/

/-- The column after a character. -/
def columnAfter (column : Nat) (c : Char) : Nat :=
  if c == '\t' then column + 8 - column % 8
  else if c == '\x08' then column - 1
  else if c == '\r' then 0
  else column + 1

/-- A line broken where it becomes too wide, after blanks if there are any. The bound is its
length. -/
def foldLine (width : Nat) (atBlanks bytes : Bool) : Nat → Nat → List Char → List Char → List Char
  | 0, _, line, r => line.reverse ++ r
  | _ + 1, _, line, [] => line.reverse
  | n + 1, column, line, c :: r =>
    let next := if bytes then column + 1 else columnAfter column c
    if width < next && !line.isEmpty then
      let after := line.takeWhile fun d => !(d == ' ' || d == '\t')
      if atBlanks && after.length < line.length then
        let before := line.drop after.length
        let column := after.reverse.foldl (fun k d => if bytes then k + 1 else columnAfter k d) 0
        before.reverse ++ '\n' :: foldLine width atBlanks bytes n column after (c :: r)
      else line.reverse ++ '\n' :: foldLine width atBlanks bytes n 0 [] (c :: r)
    else foldLine width atBlanks bytes n next (c :: line) r

/-- `fold`: breaks lines that are too wide. -/
def fold (j : Job) : Job :=
  let arguments := match j.call.arguments with
    | a :: r =>
      if "-".isPrefixOf a && 1 < a.length && (a.toList.drop 1).all Char.isDigit then
        "-w" :: dropText 1 a :: r
      else a :: r
    | [] => []
  { j with call := { j.call with arguments } }.withOptions 1
    ⟨"bsw:", [("bytes", "b"), ("spaces", "s"), ("width", "w")], false⟩ fun j given paths =>
      let text := (Options.value? given "w").getD "80"
      match text.toNat? with
      | none => (j.complain ("invalid number of columns: " ++ Quote.always text)).fail 1
      | some 0 => (j.complain ("invalid number of columns: " ++ Quote.always text ++
          ": Numerical result out of range")).fail 1
      | some width =>
        j.forEachInput paths fun j _ text =>
          j.write (String.join ((Lines.pieces '\n' text).map fun line =>
            let body := (Lines.body '\n' line).toList
            String.ofList (foldLine width (Options.has given "s") (Options.has given "b")
              (2 * body.length + 2) 0 [] body) ++ dropText body.length line))

/-! ### Tabs -/

/-- Where tabs lead: to columns that are multiples of a number, or to some columns. -/
inductive TabStops where
  | every (distance : Nat)
  | list (columns : List Nat)
deriving DecidableEq, Repr

/-- The column to which a tab leads, if it leads to one. -/
def TabStops.after? (stops : TabStops) (column : Nat) : Option Nat :=
  match stops with
  | .every n => some (column + n - column % n)
  | .list columns => columns.find? (column < ·)

/-- The tab stops that a text describes. -/
def TabStops.ofText (text : String) : Except String TabStops :=
  let words := ((text.toList.map fun c => if c == ' ' then ',' else c) |> splitAt ',').filter
    (!·.isEmpty)
  match words.find? fun w => !w.all Char.isDigit with
  | some w => .error ("tab size contains invalid character(s): " ++
      Quote.always (String.ofList (w.dropWhile Char.isDigit)))
  | none =>
    let columns := words.filterMap fun w => (String.ofList w).toNat?
    if columns.contains 0 then .error "tab size cannot be 0"
    else
      match columns with
      | [] => .ok (.every 8)
      | [n] => .ok (.every n)
      | columns =>
        if (columns.zip (columns.drop 1)).any fun (a, b) => b ≤ a then
          .error "tab sizes must be ascending"
        else .ok (.list columns)

/-- The arguments of a program with the tab stops after an option, which may stand after a dash
alone. -/
def withTabStops (arguments : List String) : List String :=
  match arguments with
  | a :: r =>
    if "-".isPrefixOf a && 1 < a.length && (a.toList.drop 1).all (fun c => c.isDigit || c == ',')
    then "-t" :: dropText 1 a :: r
    else a :: r
  | [] => []

/-- The tab stops that options ask for. -/
def tabStopsOf (given : List Options.Given) : Except String TabStops :=
  TabStops.ofText (String.intercalate "," (given.filterMap fun (k, v) =>
    if k == "t" then v else none))

/-- A line with blanks in place of tabs. -/
def expandLine (stops : TabStops) (initial : Bool) (line : List Char) : List Char :=
  (line.foldl (fun (out, column, started) c =>
    if c == '\t' && !(initial && started) then
      let next := (stops.after? column).getD (column + 1)
      (List.replicate (next - column) ' ' ++ out, next, started)
    else
      let column := if c == '\x08' then column - 1 else column + 1
      (c :: out, column, started || c != ' ')) (([] : List Char), 0, false)).1.reverse

/-- `expand`: puts blanks in place of tabs. -/
def expand (j : Job) : Job :=
  { j with call := { j.call with arguments := withTabStops j.call.arguments } }.withOptions 1
    ⟨"it:", [("initial", "i"), ("tabs", "t")], false⟩ fun j given paths =>
    match tabStopsOf given with
    | .error message => (j.complain message).fail 1
    | .ok stops =>
      j.forEachInput paths fun j _ text =>
        j.write (String.join ((Lines.pieces '\n' text).map fun (line : String) =>
          String.ofList (expandLine stops (Options.has given "i") line.toList)))

/-- Where putting tabs into a line has come to. -/
structure Blanking where
  /-- What has been put out, the last character first. -/
  out : List Char
  /-- Blanks of which it is not known yet whether they become a tab. -/
  pending : List Char
  column : Nat
  wasBlank : Bool
  /-- Whether the first pending blank stands alone before a tab stop. -/
  single : Bool
  active : Bool

namespace Blanking

/-- Puts out the blanks that are pending, which have become a tab if the first one stood alone and
others have followed. -/
def settle (b : Blanking) : Blanking :=
  let blanks := match b.pending with
    | _ :: d :: r => if b.single then '\t' :: d :: r else b.pending
    | blanks => blanks
  { b with out := blanks.reverse ++ b.out, pending := [], single := false }

/-- Takes a character in. -/
def add (stops : TabStops) (whole : Bool) (b : Blanking) (c : Char) : Blanking :=
  if !b.active then { b with out := c :: b.out }
  else
    let isBlank := c == ' ' || c == '\t'
    let next := stops.after? b.column
    let put (b : Blanking) (c : Char) : Blanking :=
      let b := b.settle
      { b with out := c :: b.out, wasBlank := isBlank, active := whole || isBlank }
    match next with
    | none => { put b c with active := false }
    | some next =>
      if c == '\t' then
        -- What is pending is part of the tab, but for a blank that stood alone before a stop.
        let kept := if b.single then ['\t'] else []
        put { b with column := next, pending := kept, single := false } '\t'
      else if c == ' ' then
        let column := b.column + 1
        if b.wasBlank && column == next then
          let kept := if b.single then ['\t'] else []
          put { b with column, pending := kept, single := false } '\t'
        else
          { b with
            column, pending := b.pending ++ [c], wasBlank := true
            single := b.single || column == next }
      else put { b with column := if c == '\x08' then b.column - 1 else b.column + 1 } c

end Blanking

/-- A line with tabs in place of blanks: of those at its start, or of all. -/
def unexpandLine (stops : TabStops) (whole : Bool) (line : List Char) : List Char :=
  ((line.foldl (Blanking.add stops whole) ⟨[], [], 0, true, false, true⟩).settle).out.reverse

/-- `unexpand`: puts tabs in place of blanks. -/
def unexpand (j : Job) : Job :=
  { j with call := { j.call with arguments := withTabStops j.call.arguments } }.withOptions 1
    ⟨"at:", [("all", "a"), ("tabs", "t"), ("first-only", "first-only")], false⟩
    fun j given paths =>
    match tabStopsOf given with
    | .error message => (j.complain message).fail 1
    | .ok stops =>
      let whole := (Options.has given "a" || Options.has given "t") &&
        !Options.has given "first-only"
      j.forEachInput paths fun j _ text =>
        j.write (String.join ((Lines.pieces '\n' text).map fun (line : String) =>
          String.ofList (unexpandLine stops whole line.toList)))

end EnvProfiles.Tool
