import EnvProfiles.Launch
import EnvProfiles.Shell.Pattern
import EnvProfiles.Tool.Calendar
import EnvProfiles.Tool.Files
import EnvProfiles.Tool.Sorting

/-!
# Listings

Programs that show what is known about files: their names, sorted in one way or
another and in one or several columns, their sizes and permissions, and the paths
that lead to them without links.

## Main definitions

* `Listing.Style`: What is shown of files, and how.
* `Tool.ls`: Shows the names in directories.
* `Tool.stat`: Shows what is known about files by a format.
* `Tool.readlink`, `Tool.realpath`, `Tool.pwd`, `Tool.which`: Show paths.
-/

namespace EnvProfiles

namespace Listing

/-- A file that is listed. -/
structure Item where
  name : String
  node : Node
  /-- The number of the node. -/
  number : Nat
  links : Nat

/-- How the names of files are laid out. -/
inductive Layout where
  | lines
  | down
  | across
  | commas
  | long
deriving DecidableEq, Repr

/-- The order of files. -/
inductive Order where
  | name
  | none
  | size
  | time
  | ending
  | version
deriving DecidableEq, Repr

/-- What is shown of files, and how. -/
structure Style where
  /-- Whether names are shown that begin with a dot, and whether the directory itself is. -/
  hidden : Bool
  own : Bool
  /-- Whether directories are files like others. -/
  directories : Bool
  recursive : Bool
  reversed : Bool
  order : Order
  layout : Layout
  /-- Whether signs tell what files are, and whether one tells only for directories. -/
  signs : Bool
  slashes : Bool
  quoted : Bool
  escaped : Bool
  numbers : Bool
  sizes : Bool
  human : Bool
  numericOwners : Bool
  showsOwner : Bool
  showsGroup : Bool
  follows : Bool
  directoriesFirst : Bool
  ignored : List String
  width : Nat

/-- The size of a file. -/
def sizeOf (node : Node) : Nat :=
  match node.content with
  | .file octets => octets.length
  | .link target => target.length
  | .directory => 4096
  | .program _ => 4
  | .device _ => 0

/-- How many blocks of a thousand octets a file takes. -/
def blocksOf (node : Node) : Nat :=
  match node.content with
  | .file octets => (octets.length + 4095) / 4096 * 4
  | .directory => 4
  | .program _ => 4
  | _ => 0

/-- The letter for what a file is. -/
def kindLetter (node : Node) : Char :=
  match node.content with
  | .directory => 'd'
  | .link _ => 'l'
  | .device _ => 'c'
  | _ => '-'

/-- What a file is and who may do what with it, in letters. -/
def modeText (node : Node) : String :=
  String.singleton (kindLetter node) ++ Tool.permissionText node.mode

/-- A size with a letter for a power of a thousand. -/
def humanSize (n : Nat) : String :=
  let rec go : Nat → Nat → Nat → List Char → String
    | 0, _, _, _ => toString n
    | k + 1, value, unit, letters =>
      if value < 1024 * unit then
        let tenths := (value * 10 + unit - 1) / unit
        let text := if tenths < 100 then toString (tenths / 10) ++ "." ++ toString (tenths % 10)
          else toString ((value + unit - 1) / unit)
        text ++ String.singleton (letters.head?.getD 'K')
      else go k value (unit * 1024) (letters.drop 1)
  if n < 1024 then toString n else go 8 n 1024 "KMGTPE".toList

/-- The sign for what a file is. -/
def signOf (s : Style) (node : Node) : String :=
  match node.content with
  | .directory => if s.signs || s.slashes then "/" else ""
  | .link _ => if s.signs && s.layout != .long then "@" else ""
  | _ => if s.signs && Disk.isRunnable node then "*" else ""

/-- A name with escapes for what cannot be seen. -/
def escapedName (blanks : Bool) (name : String) : String :=
  String.join (name.toList.map fun c =>
    if c == '\\' then "\\\\"
    else if c == ' ' && blanks then "\\ "
    else if c == '"' && !blanks then "\\\""
    else if Quote.isVisible c then String.singleton c
    else String.ofList (Quote.hidden c))

/-- A name as it is shown. -/
def shownName (s : Style) (item : Item) : String :=
  let name := if s.quoted then "\"" ++ escapedName false item.name ++ "\""
    else if s.escaped then escapedName true item.name
    else item.name
  name ++ signOf s item.node

/-- The ending of a name. -/
def endingOf (name : String) : String :=
  match name.toList.reverse.span (· != '.') with
  | (_, []) => ""
  | (ending, _) => String.ofList ending.reverse

/-- Whether a file comes before another one. -/
def comesBefore (s : Style) (a b : Item) : Bool :=
  let names := Sorting.compareTexts a.name.toList b.name.toList
  let order := match s.order with
    | .size => (compare (sizeOf b.node) (sizeOf a.node)).then names
    | .time => (compare b.node.changed a.node.changed).then names
    | .ending => (Sorting.compareTexts (endingOf a.name).toList (endingOf b.name).toList).then names
    | .version => (Sorting.compareVersions (a.name.length + b.name.length + 1) a.name.toList
        b.name.toList).then names
    | _ => names
  (if s.reversed then order.swap else order) != .gt

/-- Files in their order. -/
def arrange (s : Style) (items : List Item) : List Item :=
  let sorted := if s.order == .none then (if s.reversed then items.reverse else items)
    else items.mergeSort (comesBefore s)
  if s.directoriesFirst then
    let isDirectory (i : Item) : Bool := i.node.content == .directory
    sorted.filter isDirectory ++ sorted.filter fun i => !isDirectory i
  else sorted

/-- Texts in columns of the given widths, two blanks apart. -/
def columnLine (widths : List Nat) (texts : List String) : String :=
  String.join (texts.zipIdx.map fun (t, i) =>
    if i + 1 == texts.length then t else padRight (widths.getD i 0 + 2) t) ++ "\n"

/-- Texts in as many columns as there is room for. -/
def columns (width : Nat) (across : Bool) (texts : List String) : String :=
  let n := texts.length
  let layout (count : Nat) : List Nat × List (List String) :=
    let height := (n + count - 1) / count
    let lines := (List.range height).map fun r =>
      (List.range count).filterMap fun c =>
        texts[if across then r * count + c else c * height + r]?
    let widths := (List.range count).map fun c =>
      (lines.map fun l => ((l[c]?).map String.length).getD 0).foldl max 0
    (widths, lines)
  let fits (count : Nat) : Bool :=
    let (widths, lines) := layout count
    let used := widths.foldl (· + ·) 0 + 2 * (count - 1)
    used ≤ width && (across || (lines.head?.map List.length) == some count)
  if n == 0 then ""
  else
    let count := (((List.range n).map fun i => n - i).find? fits).getD 1
    let (widths, lines) := layout count
    String.join (lines.map (columnLine widths))

/-- Texts with commas between them, in lines of a width. -/
def commaLines (width : Nat) (texts : List String) : String :=
  (texts.zipIdx.foldl (fun (out, column) (t, i) =>
    if i == 0 then (t, t.length)
    else if width < column + 2 + t.length + (if i + 1 == texts.length then 0 else 1) then
      (out ++ ",\n" ++ t, t.length)
    else (out ++ ", " ++ t, column + 2 + t.length)) ("", 0)).1 ++ "\n"

/-- The lines that tell all about files, given the present in nanoseconds. -/
def longLines (s : Style) (now : Nat) (items : List Item) : String :=
  let owner := if s.numericOwners then "0" else "root"
  let size (i : Item) : String :=
    if s.human then humanSize (sizeOf i.node) else toString (sizeOf i.node)
  let widest (f : Item → String) : Nat := (items.map fun i => (f i).length).foldl max 0
  let links (i : Item) : String := toString i.links
  let number (i : Item) : String := if s.numbers then padLeft (widest fun i => toString i.number)
    (toString i.number) ++ " " else ""
  let blocks (i : Item) : String := if s.sizes then padLeft
    (widest fun i => toString (blocksOf i.node)) (toString (blocksOf i.node)) ++ " " else ""
  String.join (items.map fun i =>
    let date := Date.ofSeconds (i.node.changed / 1000000000)
    let recent := i.node.changed + 15778476000000000 > now
    let format := if recent then "%b %e %H:%M" else "%b %e  %Y"
    let target := match i.node.content with
      | .link t => " -> " ++ t
      | _ => ""
    number i ++ blocks i ++ modeText i.node ++ " " ++ padLeft (widest links) (links i) ++ " " ++
      (if s.showsOwner then owner ++ " " else "") ++ (if s.showsGroup then owner ++ " " else "") ++
      padLeft (widest size) (size i) ++ " " ++ String.ofList (date.format 0 format.toList) ++ " " ++
      shownName s i ++ target ++ "\n")

/-- Files as they are shown. -/
def shownItems (s : Style) (now : Nat) (items : List Item) : String :=
  let short (i : Item) : String :=
    (if s.numbers then toString i.number ++ " " else "") ++
      (if s.sizes then
        padLeft ((items.map fun i => (toString (blocksOf i.node)).length).foldl max 0)
        (toString (blocksOf i.node)) ++ " " else "") ++ shownName s i
  match s.layout with
  | .long => longLines s now items
  | .lines => String.join (items.map fun i => short i ++ "\n")
  | .down => columns s.width false (items.map short)
  | .across => columns s.width true (items.map short)
  | .commas => if items.isEmpty then "" else commaLines s.width (items.map short)

/-- The file of a name at a place. -/
def itemAt (d : Disk) (name : String) (place : Location) (node : Node) : Item :=
  let number := (d.number? place).getD 2
  let links := match node.content with
    | .directory => 2 + ((d.children place).filter fun n =>
        d.content? (place ++ [n]) == some .directory).length
    | _ => max 1 (d.nameCount number)
  ⟨name, node, number, links⟩

/-- The files in a directory that are shown. -/
def itemsIn (s : Style) (d : Disk) (place : Location) : List Item :=
  let names := (if s.order == .none then
      d.names.filterMap fun e => FileSystem.childName? place e.1
    else d.children place).filter fun n =>
      (s.hidden || !".".isPrefixOf n) && !s.ignored.any fun p =>
        Shell.Pattern.covers p.toList n.toList
  let inner := names.filterMap fun n =>
    let spot := place ++ [n]
    let node := if s.follows then d.goal? spot else d.node? spot
    node.map fun node => itemAt d n spot node
  let outer := if s.own then
      [(".", place), ("..", place.dropLast)].filterMap fun (n, spot) =>
        (d.node? spot).map fun node => itemAt d n spot node
    else []
  arrange s (outer ++ inner)

/-- Directories, each with what is in it, and those below it if they are asked for. The bound is on
the depth. -/
def directories (s : Style) (d : Disk) : Nat → List (String × Location) → List String
  | 0, _ => []
  | n + 1, places => places.flatMap fun (path, place) =>
    let items := itemsIn s d place
    let total := if s.layout == .long || s.sizes then
        "total " ++ toString ((items.map fun i => blocksOf i.node).foldl (· + ·) 0) ++ "\n"
      else ""
    let block := path ++ ":\n" ++ total ++ shownItems s d.time items
    let below := if s.recursive then
        items.filterMap fun i =>
          if i.node.content == .directory && i.name != "." && i.name != ".." then
            some (Tool.entryPath path i.name, place ++ [i.name])
          else none
      else []
    block :: directories s d n below

end Listing

namespace Tool

/-- The options of `ls`. -/
def lsOptions : Options.Form :=
  ⟨"aAbBcCdfFgGhHiI:klLmnNopqQrRsStT:uUvw:xXZ1", [("all", "a"), ("almost-all", "A"),
    ("escape", "b"), ("directory", "d"), ("classify", "classify::"), ("no-group", "G"),
    ("human-readable", "h"), ("inode", "i"), ("ignore", "I"), ("dereference", "L"),
    ("numeric-uid-gid", "n"), ("literal", "N"), ("quote-name", "Q"), ("reverse", "r"),
    ("recursive", "R"), ("size", "s"), ("sort", "sort:"), ("color", "color::"), ("hide", "hide:"),
    ("format", "format:"), ("group-directories-first", "group-directories-first"),
    ("width", "w"), ("indicator-style", "indicator-style:"), ("file-type", "file-type"),
    ("full-time", "full-time"), ("time", "time:"), ("time-style", "time-style:"), ("si", "si"),
    ("ignore-backups", "B"), ("show-control-chars", "show-control-chars")], false⟩

/-- `ls`: shows the names in directories. -/
def ls (j : Job) : Job :=
  j.withOptions 2 lsOptions fun j given paths =>
    let has := Options.has given
    let value := Options.value? given
    let layout : Listing.Layout :=
      match Options.last? given ["1", "C", "x", "m", "l", "g", "n", "o", "format", "full-time"] with
      | some "C" => .down
      | some "x" => .across
      | some "m" => .commas
      | some "l" => .long
      | some "g" => .long
      | some "n" => .long
      | some "o" => .long
      | some "full-time" => .long
      | some "1" => if ["l", "g", "n", "o"].any has then .long else .lines
      | some "format" => match value "format" with
        | some "long" => .long
        | some "verbose" => .long
        | some "commas" => .commas
        | some "across" => .across
        | some "horizontal" => .across
        | some "vertical" => .down
        | _ => .lines
      | _ => .lines
    let order : Listing.Order :=
      match Options.last? given ["U", "S", "t", "X", "v", "f", "sort"] with
      | some "U" => .none
      | some "f" => .none
      | some "S" => .size
      | some "t" => .time
      | some "X" => .ending
      | some "v" => .version
      | some "sort" => match value "sort" with
        | some "none" => .none
        | some "size" => .size
        | some "time" => .time
        | some "extension" => .ending
        | some "version" => .version
        | _ => .name
      | _ => .name
    let all := Options.last? given ["a", "A", "f"]
    let unwanted := given.filterMap fun (k, v) => if k == "I" || (k == "hide" && all.isNone) then v
      else none
    let s : Listing.Style :=
      { hidden := all.isSome, own := all.any (· != "A"), directories := has "d"
        recursive := has "R" && !has "d", reversed := has "r", order, layout
        signs := has "F" || has "classify" || has "file-type", slashes := has "p"
        quoted := Options.last? given ["Q", "N", "b"] == some "Q"
        escaped := Options.last? given ["Q", "N", "b"] == some "b"
        numbers := has "i", sizes := has "s", human := has "h" || has "si"
        numericOwners := has "n", showsOwner := !has "g", showsGroup := !(has "o" || has "G")
        follows := has "L", directoriesFirst := has "group-directories-first"
        ignored := unwanted ++ if has "B" then ["*~"] else []
        width := ((value "w").bind String.toNat?).getD 80 }
    let operands := if paths.isEmpty then ["."] else paths
    let (found, j) := operands.foldl (fun (out, j) path =>
      let isShown := s.layout == .long || s.signs || s.directories
      -- A link that leads to a directory is followed, unless links are shown as such.
      let named := j.disk.findName j.call.base path
      let followed := j.disk.find j.call.base path
      let chosen := if s.follows || has "H" then followed
        else match followed with
          | .ok f => if !isShown || Terrain.endsWithSlash path then .ok f else named
          | .error _ => named
      match chosen with
      | .ok (place, node) => (out ++ [(path, place, node)], j)
      | .error refusal =>
        (out, (j.complain ("cannot access " ++ q path ++ ": " ++ refusal.detail)).fail 2))
      (([] : List (String × Location × Node)), j)
    let isDirectory (node : Node) : Bool := node.content == .directory && !s.directories
    let files := found.filter fun f => !isDirectory f.2.2
    let items := Listing.arrange s (files.map fun (path, place, node) =>
      Listing.itemAt j.disk path place node)
    let places := found.filter fun f => isDirectory f.2.2
    let sortedPlaces := Listing.arrange s (places.map fun (path, place, node) =>
      Listing.itemAt j.disk path place node)
    let starts := sortedPlaces.filterMap fun i =>
      (places.find? fun p => p.1 == i.name).map fun p => (p.1, p.2.1)
    let blocks := Listing.directories s j.disk depthBound starts
    let listed := Listing.shownItems s j.disk.time items
    let blocks := match blocks with
      | [single] => if operands.length == 1 && !s.recursive && items.isEmpty then
          [dropText ((starts.head?.map (·.1.length + 2)).getD 0) single]
        else [single]
      | many => many
    let parts := (if items.isEmpty then [] else [listed]) ++ blocks
    j.write (String.intercalate "\n" parts)

/-! ### What is known about a file -/

/-- The words for what a file is. -/
def kindWords (node : Node) : String :=
  match node.content with
  | .directory => "directory"
  | .link _ => "symbolic link"
  | .device _ => "character special file"
  | .file "" => "regular empty file"
  | _ => "regular file"

/-- A number in octal digits. -/
def octalText (n : Nat) : String := String.ofList (Nat.toDigits 8 n)

/-- What a letter of a format tells of a file. -/
def statField (path : String) (item : Listing.Item) (letter : Char) : Option String :=
  let node := item.node
  let seconds : Nat := node.changed / 1000000000
  let time := String.ofList ((Date.ofSeconds seconds).format (node.changed % 1000000000)
    "%Y-%m-%d %H:%M:%S.%N %z".toList)
  let kind := match node.content with
    | .directory => 0o40000
    | .link _ => 0o120000
    | .device _ => 0o20000
    | _ => 0o100000
  match letter with
  | '%' => some "%"
  | 'a' => some (octalText (node.mode % 4096))
  | 'A' => some (Listing.modeText node)
  | 'b' => some (toString (Listing.blocksOf node * 2))
  | 'B' => some "512"
  | 'd' => some "1"
  | 'f' => some (String.ofList (Nat.toDigits 16 (kind + node.mode)))
  | 'F' => some (kindWords node)
  | 'g' => some "0"
  | 'G' => some "root"
  | 'h' => some (toString item.links)
  | 'i' => some (toString item.number)
  | 'n' => some path
  | 'N' => some (match node.content with
    | .link target => q path ++ " -> " ++ q target
    | _ => q path)
  | 'o' => some "4096"
  | 's' => some (toString (Listing.sizeOf node))
  | 'u' => some "0"
  | 'U' => some "root"
  | 'x' => some time
  | 'X' => some (toString seconds)
  | 'y' => some time
  | 'Y' => some (toString seconds)
  | 'z' => some time
  | 'Z' => some (toString seconds)
  | 'w' => some "-"
  | 'W' => some "0"
  | _ => none

/-- A format with what is known about a file. -/
def statText (path : String) (item : Listing.Item) : List Char → String
  | '%' :: c :: r => (statField path item c).getD "?" ++ statText path item r
  | c :: r => String.singleton c ++ statText path item r
  | [] => ""

/-- `stat`: shows what is known about files. -/
def stat (j : Job) : Job :=
  j.withOptions 1 ⟨"c:fLt", [("format", "c"), ("printf", "printf:"), ("dereference", "L"),
    ("terse", "t"), ("file-system", "f")], false⟩ fun j given paths =>
    if paths.isEmpty then j.missingOperand [] 1
    else
      j.forEach paths fun j path =>
        match if Options.has given "L" then j.disk.find j.call.base path
          else j.disk.findName j.call.base path with
        | .error refusal => failWith j ("cannot statx " ++ q path ++ ": " ++ refusal.detail)
        | .ok (place, node) =>
          let item := Listing.itemAt j.disk path place node
          match Options.value? given "printf", Options.value? given "c" with
          | some format, _ =>
            let (cs, _) := Escape.expandLoosely (format.length + 1) format.toList
            j.write (statText path item cs)
          | none, some format => j.write (statText path item format.toList ++ "\n")
          | none, none =>
            j.write (statText path item ("  File: %n\n  Size: %s\t\tBlocks: %b\t" ++
              "IO Block: %o %F\nAccess: (%a/%A)  Uid: (%u/%U)   Gid: (%g/%G)\n").toList)

/-! ### Paths -/

/-- The path of a place. -/
def pathOf (place : Location) : String := "/" ++ String.intercalate "/" place

/-- `readlink`: shows where links lead. -/
def readlink (j : Job) : Job :=
  j.withOptions 1 ⟨"femnqsvz", [("canonicalize", "f"), ("canonicalize-existing", "e"),
    ("canonicalize-missing", "m"), ("no-newline", "n"), ("quiet", "q"), ("silent", "s"),
    ("verbose", "v"), ("zero", "z")], false⟩ fun j given paths =>
    let has := Options.has given
    if paths.isEmpty then j.missingOperand [] 1
    else
      let stop := if has "z" then "\x00" else if has "n" && paths.length == 1 then "" else "\n"
      j.forEach paths fun j path =>
        let found : Except Refusal String :=
          match Options.last? given ["f", "e", "m"] with
          | some "e" => (j.disk.find j.call.base path).map fun f => pathOf f.1
          | some "f" => (j.disk.locate j.call.base (trimSlashes path)).map pathOf
          | some _ => .ok (missingPath j path)
          | none =>
            match j.disk.findName j.call.base path with
            | .ok (_, ⟨.link target, _, _⟩) => .ok target
            | .ok _ => .error .invalid
            | .error refusal => .error refusal
        match found with
        | .ok text => j.write (text ++ stop)
        | .error refusal => if has "v" then j.refuse path refusal 1 else j.fail 1
where
  /-- The path that names lead to, whether they are there or not. -/
  missingPath (j : Job) (path : String) : String :=
    match j.disk.locate j.call.base path with
    | .ok place => pathOf place
    | .error _ =>
      let start := if Path.isAbsolute path then [] else j.call.base
      pathOf ((Terrain.names path).foldl (fun place name =>
        if name == "." then place else if name == ".." then place.dropLast else place ++ [name])
        start)

/-- `realpath`: shows paths without links. -/
def realpath (j : Job) : Job :=
  j.withOptions 1 ⟨"eEmLPqsz", [("canonicalize-existing", "e"), ("canonicalize-missing", "m"),
    ("quiet", "q"), ("strip", "s"), ("no-symlinks", "s"), ("zero", "z"),
    ("relative-to", "relative-to:"), ("relative-base", "relative-base:")], false⟩
    fun j given paths =>
    let has := Options.has given
    if paths.isEmpty then j.missingOperand [] 1
    else
      let stop := if has "z" then "\x00" else "\n"
      j.forEach paths fun j path =>
        let found : Except Refusal Location :=
          if has "e" then (j.disk.find j.call.base path).map (·.1)
          else if has "m" || has "s" then
            .ok (Terrain.names (readlink.missingPath j path))
          else j.disk.locate j.call.base path
        match found with
        | .ok place =>
          let text := match Options.value? given "relative-to" with
            | none => pathOf place
            | some r =>
              match j.disk.locate j.call.base r with
              | .error _ => pathOf place
              | .ok start =>
                let shared := ((place.zip start).takeWhile fun (a, b) => a == b).length
                let steps := List.replicate (start.length - shared) ".." ++ place.drop shared
                if steps.isEmpty then "." else String.intercalate "/" steps
          j.write (text ++ stop)
        | .error refusal => if has "q" then j.fail 1 else j.refuse path refusal 1

/-- `pwd`: shows the path of the directory at which paths begin. -/
def pwd (j : Job) : Job :=
  j.withOptions 1 ⟨"LP", [("logical", "L"), ("physical", "P")], false⟩ fun j given _ =>
    let own := (j.valueOf? "PWD").filter fun path =>
      Options.last? given ["L", "P"] == some "L" && Path.isAbsolute path &&
        (j.disk.find j.call.base path).toOption.any fun f => f.1 == j.call.base
    j.write (own.getD (pathOf j.call.base) ++ "\n")

/-- `which`: shows where programs are found. -/
def which (j : Job) : Job :=
  let names := j.call.arguments.filter fun a => !"-".isPrefixOf a
  let all := j.call.arguments.contains "-a"
  let directories := searchDirectories ((j.valueOf? searchVariable).getD "")
  let j := if names.isEmpty then j.fail 1 else j
  j.forEach names fun j name =>
    let candidates := if isProgramPath name then [name]
      else directories.map fun d => if d == "" then "./" ++ name else entryPath d name
    let found := candidates.filter fun path =>
      (j.disk.find j.call.base path).toOption.any fun f => Disk.isRunnable f.2
    match found with
    | [] => j.fail 1
    | first :: more => (if all then first :: more else [first]).foldl (fun j path =>
        j.write (path ++ "\n")) j

end Tool

end EnvProfiles
