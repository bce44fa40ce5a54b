import EnvProfiles.Tool.Condition
import EnvProfiles.Tool.Words

/-!
# Files and Directories

Programs that make, copy, move and remove files and directories. Where several
files go to one place this has to be a directory, and a file that goes to a
directory keeps its name there.

## Main definitions

* `Tool.copyTree`: Copies a file, or a directory with all that is in it.
* `Tool.cp`, `Tool.mv`, `Tool.ln`, `Tool.rm`: Copy, move, link and remove files.
* `Tool.mkdir`, `Tool.rmdir`: Make and remove directories.
* `Tool.touch`, `Tool.truncate`, `Tool.chmod`, `Tool.tee`: Change files.
-/

namespace EnvProfiles.Tool

/-- How deeply directories are looked into. -/
def depthBound : Nat := 256

/-- A name in the quotes of messages. -/
def q (name : String) : String := Quote.always name

/-- Says that something is wrong. -/
def failWith (j : Job) (text : String) : Job := (j.complain text).fail 1

/-- Whether a path leads to a directory. -/
def leadsToDirectory (j : Job) (path : String) : Bool := j.disk.isDirectory j.call.base path

/-- The path of an entry of a directory. -/
def entryPath (directory name : String) : String :=
  if directory.toList.getLast? == some '/' then directory ++ name else directory ++ "/" ++ name

/-- A path without slashes at its end. -/
def trimSlashes (path : String) : String := String.ofList (withoutSlashes path.toList)

/-- Asks something and reads whether the answer is yes. -/
def asks (j : Job) (text : String) : Bool × Job :=
  let j := j.flush.sendTo 2 (j.call.name ++ ": " ++ text)
  match j.input with
  | .ok input =>
    let line := input.toList.takeWhile (· != '\n')
    let j := { j with input := .ok (dropText (line.length + 1) input) }
    (line.head?.any fun c => c == 'y' || c == 'Y', j)
  | .error _ => (false, j)

/-- Sources and targets. -/
inductive Plan where
  /-- Every source with the path it goes to. -/
  | pairs (pairs : List (String × String))
  | wrong (job : Job)

/-- The targets of sources, given the options for them: a directory for all of them, or that the
target is no directory. -/
def planOf (j : Job) (given : List Options.Given) (operands : List String) : Plan :=
  let into (directory : String) (sources : List String) : Plan :=
    .pairs (sources.map fun s => (s, entryPath directory (baseName s)))
  match Options.value? given "t" with
  | some directory =>
    match operands with
    | [] => .wrong (j.misuse "missing file operand" 1)
    | sources =>
      match j.disk.find j.call.base directory with
      | .ok (_, ⟨.directory, _, _⟩) => into directory sources
      | .ok _ => .wrong (failWith j ("target directory " ++ q directory ++ ": Not a directory"))
      | .error refusal =>
        .wrong (failWith j ("target directory " ++ q directory ++ ": " ++ refusal.detail))
  | none =>
    match operands with
    | [] => .wrong (j.misuse "missing file operand" 1)
    | [a] => .wrong (j.misuse ("missing destination file operand after " ++ q a) 1)
    | [a, b] =>
      if !Options.has given "T" && leadsToDirectory j b then into b [a] else .pairs [(a, b)]
    | sources =>
      let target := sources.getLast?.getD ""
      if Options.has given "T" then
        .wrong (j.misuse ("extra operand " ++ q (sources.getD 2 "")) 1)
      else if leadsToDirectory j target then into target sources.dropLast
      else
        match j.disk.find j.call.base target with
        | .ok _ => .wrong (failWith j ("target " ++ q target ++ ": Not a directory"))
        | .error refusal => .wrong (failWith j ("target " ++ q target ++ ": " ++ refusal.detail))

/-! ### Copying -/

/-- How files are copied. -/
structure Copying where
  recursive : Bool
  /-- Whether links are copied as links. -/
  keepsLinks : Bool
  preserves : Bool
  /-- Whether files that are there already are left alone. -/
  sparing : Bool
  asking : Bool
  /-- Whether only older files are replaced. -/
  updating : Bool
  verbose : Bool
  /-- Whether links are made instead: hard ones, or others. -/
  hardLinks : Bool
  softLinks : Bool

/-- What a file is, with the content of the standard input for the device of that name. -/
def contentOf (j : Job) (content : Content) : Except Refusal String × Job :=
  match content with
  | .file octets => (.ok octets, j)
  | .program _ => (.ok "\x7fELF", j)
  | .device (.descriptor 0) => j.takeInput
  | _ => (.ok "", j)

/-- Tells what has been copied. -/
def tellPair (j : Job) (verbose : Bool) (source target : String) : Job :=
  if verbose then j.write (q source ++ " -> " ++ q target ++ "\n") else j

/-- Copies a file, or a directory with all that is in it. The bound is on the depth. -/
def copyTree (how : Copying) : Nat → Job → String × String → Job
  | 0, j, _ => j
  | n + 1, j, (source, target) =>
    let base := j.call.base
    match if how.keepsLinks then j.disk.findName base source else j.disk.find base source with
    | .error refusal => failWith j ("cannot stat " ++ q source ++ ": " ++ refusal.detail)
    | .ok (place, node) =>
      let there := j.disk.find base target
      if node.content == .directory && !how.recursive then
        failWith j ("-r not specified; omitting directory " ++ q source)
      else
        match node.content, there with
        | .directory, .ok (_, ⟨.directory, _, _⟩) => inner n j source target place
        | .directory, .ok _ =>
          failWith j ("cannot overwrite non-directory " ++ q target ++ " with directory " ++
            q source)
        | .directory, .error _ =>
          match j.disk.makeDirectory base target ((node.mode &&& 0o777) &&& (0o777 - j.call.mask))
            with
          | .error refusal =>
            failWith j ("cannot create directory " ++ q target ++ ": " ++ refusal.detail)
          | .ok disk => inner n (tellPair { j with disk } how.verbose source target) source target
              place
        | _, .ok (_, ⟨.directory, _, _⟩) =>
          failWith j ("cannot overwrite directory " ++ q target ++ " with non-directory")
        | content, there =>
          let same := there.toOption.any fun t =>
            (j.disk.number? t.1).isSome && j.disk.number? t.1 == j.disk.number? place
          if same && !how.softLinks && !how.hardLinks then
            failWith j (q source ++ " and " ++ q target ++ " are the same file")
          else if there.isOk && how.sparing then j
          else if how.updating && there.toOption.any fun t => node.changed ≤ t.2.changed then j
          else
            let (agreed, j) :=
              if there.isOk && how.asking then asks j ("overwrite " ++ q target ++ "? ")
              else (true, j)
            if !agreed then j.fail 1
            else
              let refused (refusal : Refusal) : Job :=
                let refusal := if refusal == .isDirectory || (refusal == .absent &&
                  Terrain.endsWithSlash target && (j.disk.locate base (trimSlashes target)).isOk)
                  then .notDirectory else refusal
                failWith j ("cannot create regular file " ++ q target ++ ": " ++ refusal.detail)
              let make (content : Content) (mode : Nat) : Job :=
                match j.disk.locateName base target with
                | .error refusal => refused refusal
                | .ok goal =>
                  if j.disk.content? goal.dropLast == some .directory then
                    tellPair { j with disk := j.disk.make goal content mode } how.verbose source
                      target
                  else refused .absent
              if how.softLinks then
                if there.isOk then
                  failWith j ("cannot create symbolic link " ++ q target ++ ": File exists")
                else make (.link source) 0o777
              else if how.hardLinks then
                match j.disk.number? place, j.disk.locateName base target with
                | some k, .ok goal =>
                  tellPair { j with disk := j.disk.addName goal k } how.verbose source target
                | _, .error refusal => refused refusal
                | none, _ => j
              else
                match content with
                | .link goal => make (.link goal) 0o777
                | .program name => make (.program name) (node.mode &&& (0o777 - j.call.mask))
                | content =>
                  match contentOf j content with
                  | (.error refusal, j) => failWith j ("error reading " ++ q source ++ ": " ++
                      refusal.detail)
                  | (.ok octets, j) =>
                    let fresh := !there.isOk
                    let mode := if how.preserves then node.mode
                      else node.mode &&& (0o777 - j.call.mask)
                    if fresh && Terrain.endsWithSlash target then refused .notDirectory
                    else
                    match j.writeFile target octets with
                    | .error refusal => refused refusal
                    | .ok j =>
                      let disk := match j.disk.locate base target with
                        | .ok goal =>
                          let d := if fresh || how.preserves then j.disk.setMode goal mode
                            else j.disk
                          if how.preserves then d.setChanged goal node.changed else d
                        | .error _ => j.disk
                      tellPair { j with disk } how.verbose source target
where
  /-- Copies what is in a directory. -/
  inner (n : Nat) (j : Job) (source target : String) (place : Location) : Job :=
    match j.disk.locate j.call.base target with
    | .error _ => j
    | .ok goal =>
      let names := j.disk.children place
      let j := names.foldl (fun j name =>
        if place ++ [name] == goal then j
        else copyTree how n j (entryPath source name, entryPath target name)) j
      if Disk.isBelow place goal || place == goal then
        failWith j ("cannot copy a directory, " ++ q source ++ ", into itself, " ++ q target)
      else if how.preserves then
        match j.disk.node? place with
        | some node =>
          { j with disk := (j.disk.setMode goal node.mode).setChanged goal node.changed }
        | none => j
      else j

/-- `cp`: copies files. -/
def cp (j : Job) : Job :=
  j.withOptions 1 ⟨"abdfHilLnPprRst:TuvxS:", [("archive", "a"), ("force", "f"),
    ("interactive", "i"), ("link", "l"), ("dereference", "L"), ("no-clobber", "n"),
    ("no-dereference", "P"), ("recursive", "r"), ("symbolic-link", "s"), ("target-directory", "t"),
    ("no-target-directory", "T"), ("update", "u"), ("verbose", "v"), ("preserve", "preserve::"),
    ("parents", "parents"), ("remove-destination", "remove-destination"),
    ("no-preserve", "no-preserve:"), ("backup", "backup::"), ("suffix", "S")], false⟩
    fun j given operands =>
    let has := Options.has given
    let recursive := has "r" || has "R" || has "a"
    let how : Copying :=
      { recursive
        keepsLinks := match Options.last? given ["P", "L", "d", "a", "H"] with
          | some "L" => false
          | some "H" => false
          | some _ => true
          | none => recursive
        preserves := has "p" || has "a" || has "preserve"
        sparing := Options.last? given ["n", "i", "f"] == some "n"
        asking := Options.last? given ["n", "i"] == some "i"
        updating := has "u", verbose := has "v", hardLinks := has "l", softLinks := has "s" }
    let target := (Options.value? given "t").orElse fun _ => operands.getLast?
    if has "parents" && 1 < operands.length && !target.any (leadsToDirectory j) then
      j.misuse "with --parents, the destination must be a directory" 1
    else
      match planOf j given operands with
      | .wrong j => j
      | .pairs pairs => j.forEach pairs (copyTree how depthBound)

/-! ### Moving -/

/-- Moves a file or directory. -/
def moveOne (sparing asking updating verbose : Bool) (j : Job) : String × String → Job
  | (source, target) =>
    let base := j.call.base
    match j.disk.findName base (trimSlashes source) with
    | .error refusal => failWith j ("cannot stat " ++ q source ++ ": " ++ refusal.detail)
    | .ok (place, node) =>
      if Terrain.endsWithSlash source && !leadsToDirectory j source then
        failWith j ("cannot stat " ++ q source ++ ": Not a directory")
      else
      let goalPath := if node.content == .directory then trimSlashes target else target
      match j.disk.locateName base goalPath with
      | .error refusal =>
        failWith j ("cannot move " ++ q source ++ " to " ++ q target ++ ": " ++ refusal.detail)
      | .ok goal =>
        let there := j.disk.node? goal
        let toDirectory := there.any (·.content == .directory)
        let same := there.isSome && (goal == place || j.disk.number? goal == j.disk.number? place)
        if same then failWith j (q source ++ " and " ++ q target ++ " are the same file")
        else if Disk.isBelow place goal then
          failWith j ("cannot move " ++ q source ++ " to a subdirectory of itself, " ++ q target)
        else if there.isSome && sparing then j
        else if updating && there.any fun t => node.changed ≤ t.changed then j
        else
          let (agreed, j) :=
            if there.isSome && asking then asks j ("overwrite " ++ q target ++ "? ") else (true, j)
          if !agreed then j.fail 1
          else if toDirectory && node.content != .directory then
            failWith j ("cannot overwrite directory " ++ q target ++ " with non-directory")
          else if there.isSome && !toDirectory && node.content == .directory then
            failWith j ("cannot overwrite non-directory " ++ q target ++ " with directory " ++
              q source)
          else if toDirectory && !(j.disk.children goal).isEmpty then
            failWith j ("cannot overwrite " ++ q target ++ ": Directory not empty")
          else if j.disk.content? goal.dropLast != some .directory then
            failWith j ("cannot move " ++ q source ++ " to " ++ q target ++
              ": No such file or directory")
          else
            let j := { j with disk := j.disk.rename place goal }
            if verbose then j.write ("renamed " ++ q source ++ " -> " ++ q target ++ "\n") else j

/-- `mv`: moves files. -/
def mv (j : Job) : Job :=
  j.withOptions 1 ⟨"bfint:TuvS:", [("force", "f"), ("interactive", "i"), ("no-clobber", "n"),
    ("target-directory", "t"), ("no-target-directory", "T"), ("update", "u"), ("verbose", "v"),
    ("backup", "backup::"), ("suffix", "S"), ("strip-trailing-slashes", "strip-trailing-slashes")],
    false⟩ fun j given operands =>
    match planOf j given operands with
    | .wrong j => j
    | .pairs pairs =>
      let last := Options.last? given ["n", "i", "f"]
      j.forEach pairs (moveOne (last == some "n") (last == some "i") (Options.has given "u")
        (Options.has given "v"))

/-! ### Removing -/

/-- How files are removed. -/
structure Removing where
  recursive : Bool
  force : Bool
  asking : Bool
  verbose : Bool
  /-- Whether empty directories are removed. -/
  directories : Bool

/-- Removes a file, or a directory with all that is in it. The bound is on the depth. -/
def removeTree (how : Removing) : Nat → Job → String → Job
  | 0, j, _ => j
  | n + 1, j, path =>
    match j.disk.findName j.call.base path with
    | .error refusal =>
      if how.force && (refusal == .absent || refusal == .notDirectory) then j
      else failWith j ("cannot remove " ++ q path ++ ": " ++ refusal.detail)
    | .ok (place, node) =>
      if node.content == .directory then
        let names := j.disk.children place
        if how.recursive then
          let (agreed, j) :=
            if how.asking && !names.isEmpty then
              asks j ("descend into directory " ++ q path ++ "? ")
            else (true, j)
          if !agreed then j
          else
            let j := names.foldl (fun j name => removeTree how n j (entryPath path name)) j
            let (agreed, j) :=
              if how.asking then asks j ("remove directory " ++ q path ++ "? ") else (true, j)
            if !agreed then j
            else if !(j.disk.children place).isEmpty then
              if how.asking then failWith j ("cannot remove " ++ q path ++ ": Directory not empty")
              else j
            else drop j place ("removed directory " ++ q path)
        else if how.directories then
          if names.isEmpty then drop j place ("removed directory " ++ q path)
          else failWith j ("cannot remove " ++ q path ++ ": Directory not empty")
        else failWith j ("cannot remove " ++ q path ++ ": Is a directory")
      else
        let kind := match node.content with
          | .link _ => "symbolic link "
          | .file "" => "regular empty file "
          | _ => "regular file "
        let (agreed, j) :=
          if how.asking then asks j ("remove " ++ kind ++ q path ++ "? ") else (true, j)
        if agreed then drop j place ("removed " ++ q path) else j
where
  /-- Takes a name away. -/
  drop (j : Job) (place : Location) (text : String) : Job :=
    let j := { j with disk := j.disk.unlink place }
    if how.verbose then j.write (text ++ "\n") else j

/-- `rm`: removes files. -/
def rm (j : Job) : Job :=
  j.withOptions 1 ⟨"dfiIrRv", [("dir", "d"), ("force", "f"), ("recursive", "r"), ("verbose", "v"),
    ("interactive", "interactive::"), ("no-preserve-root", "no-preserve-root"),
    ("preserve-root", "preserve-root::"), ("one-file-system", "one-file-system")], false⟩
    fun j given paths =>
    let has := Options.has given
    let how : Removing :=
      { recursive := has "r" || has "R"
        force := Options.last? given ["f", "i"] == some "f"
        asking := Options.last? given ["f", "i"] == some "i"
        verbose := has "v", directories := has "d" }
    if paths.isEmpty then (if how.force then j else j.missingOperand [] 1)
    else
      j.forEach paths fun j path =>
        let name := baseName path
        if how.recursive && (name == "." || name == "..") then
          failWith j ("refusing to remove '.' or '..' directory: skipping " ++ q path)
        else if how.recursive && name == "/" then
          failWith (j.complain ("it is dangerous to operate recursively on " ++ q path))
            "use --no-preserve-root to override this failsafe"
        else removeTree how depthBound j path

/-- `unlink`: takes the name of a file away. -/
def unlink (j : Job) : Job :=
  j.withOptions 1 ⟨"", [], false⟩ fun j _ paths =>
    match paths with
    | [] => j.missingOperand [] 1
    | _ :: extra :: _ => j.extraOperand extra 1
    | [path] =>
      match j.disk.findName j.call.base path with
      | .error refusal => failWith j ("cannot unlink " ++ q path ++ ": " ++ refusal.detail)
      | .ok (_, ⟨.directory, _, _⟩) =>
        failWith j ("cannot unlink " ++ q path ++ ": Is a directory")
      | .ok (place, _) => { j with disk := j.disk.unlink place }

/-! ### Directories -/

/-- The bits that a text of octal digits or of letters makes of others. Letters leave the bits that
the mask holds alone, unless it is said whose they are. -/
def modeOf? (mask : Nat) (isDirectory : Bool) (before : Nat) (text : String) : Option Nat :=
  let cs := text.toList
  if !cs.isEmpty && cs.all Escape.isOctal then
    let n := Escape.value 8 cs
    if n < 0o10000 then some n else none
  else
    (splitAt ',' cs).foldlM change before
where
  /-- What one clause of letters makes of the bits. -/
  change (mode : Nat) (clause : List Char) : Option Nat :=
    let who := clause.takeWhile fun c => "ugoa".toList.contains c
    actions (clause.length + 1) who mode (clause.drop who.length)
  /-- What signs and letters make of the bits of those who are meant. -/
  actions : Nat → List Char → Nat → List Char → Option Nat
    | 0, _, _, _ => none
    | _ + 1, _, mode, [] => some mode
    | n + 1, who, mode, sign :: r =>
      if !(sign == '+' || sign == '-' || sign == '=') then none
      else
        let letters := r.takeWhile fun c => !(c == '+' || c == '-' || c == '=')
        let all := who.isEmpty || who.contains 'a'
        let shifts := (if all || who.contains 'u' then [6] else []) ++
          (if all || who.contains 'g' then [3] else []) ++
          (if all || who.contains 'o' then [0] else [])
        let triple : Option Nat := letters.foldlM (fun bits c => match c with
          | 'r' => some (bits ||| 4)
          | 'w' => some (bits ||| 2)
          | 'x' => some (bits ||| 1)
          | 'X' => some (if isDirectory || mode &&& 0o111 != 0 then bits ||| 1 else bits)
          | 'u' => some (bits ||| (mode / 64 % 8))
          | 'g' => some (bits ||| (mode / 8 % 8))
          | 'o' => some (bits ||| (mode % 8))
          | 's' => some bits
          | 't' => some bits
          | _ => none) 0
        match triple with
        | none => none
        | some triple =>
          let special := (if letters.contains 's' then
              (if all || who.contains 'u' then 0o4000 else 0) |||
                (if all || who.contains 'g' then 0o2000 else 0) else 0) |||
            (if letters.contains 't' then 0o1000 else 0)
          let bits := shifts.foldl (fun b s => b ||| triple * twoTo s) special
          let bits := if who.isEmpty then bits &&& (0o7777 - mask) else bits
          let cleared := shifts.foldl (fun b s => b ||| 7 * twoTo s) 0
          let mode := match sign with
            | '+' => mode ||| bits
            | '-' => mode &&& (0o7777 - bits)
            | _ => (mode &&& (0o7777 - cleared)) ||| bits
          actions n who mode (r.drop letters.length)

/-- The paths that lead to a path, from the first directory on. -/
def ancestors (path : String) : List String :=
  let names := Terrain.names path
  let start := if Path.isAbsolute path then "/" else ""
  (List.range names.length).map fun i => start ++ String.intercalate "/" (names.take (i + 1))

/-- `mkdir`: makes directories. -/
def mkdir (j : Job) : Job :=
  j.withOptions 1 ⟨"m:pvZ", [("mode", "m"), ("parents", "p"), ("verbose", "v")], false⟩
    fun j given paths =>
    let mode := match Options.value? given "m" with
      | none => some j.directoryMode
      | some text => modeOf? j.call.mask true 0o777 text
    let make (j : Job) (path : String) (mode : Nat) : Except Refusal Job :=
      match j.disk.makeDirectory j.call.base path mode with
      | .ok disk =>
        let j := { j with disk }
        .ok (if Options.has given "v" then
          j.write (j.call.name ++ ": created directory " ++ q path ++ "\n") else j)
      | .error refusal => .error refusal
    let refused (j : Job) (path : String) (refusal : Refusal) : Job :=
      failWith j ("cannot create directory " ++ q path ++ ": " ++ refusal.detail)
    match paths, mode with
    | [], _ => j.missingOperand [] 1
    | _, none => failWith j ("invalid mode " ++ q ((Options.value? given "m").getD ""))
    | paths, some mode =>
      j.forEach paths fun j path =>
        if Options.has given "p" then
          let steps := ancestors path
          (steps.foldl (fun (j, stopped) step =>
            if stopped then (j, true)
            else if leadsToDirectory j step then (j, false)
            else
              match make j step (if steps.getLast? == some step then mode else j.directoryMode) with
              | .ok j => (j, false)
              | .error refusal =>
                let isLast := steps.getLast? == some step
                let refusal := if refusal == .present && !isLast then .notDirectory else refusal
                (refused j step refusal, true)) (j, false)).1
        else
          match make j path mode with
          | .ok j => j
          | .error refusal => refused j path refusal

/-- `rmdir`: removes directories that are empty. -/
def rmdir (j : Job) : Job :=
  j.withOptions 1 ⟨"pv", [("parents", "p"), ("verbose", "v"),
    ("ignore-fail-on-non-empty", "ignore")], false⟩ fun j given paths =>
    if paths.isEmpty then j.missingOperand [] 1
    else
      j.forEach paths fun j path =>
        let steps := if Options.has given "p" then (ancestors path).reverse else [path]
        (steps.foldl (fun (j, stopped) step =>
          if stopped then (j, true)
          else
            let j := if Options.has given "v" then
                j.write (j.call.name ++ ": removing directory, " ++ q step ++ "\n") else j
            let refused (refusal : Refusal) : Job × Bool :=
              (failWith j ("failed to remove " ++ (if step == path then "" else "directory ") ++
                q step ++ ": " ++ refusal.detail), true)
            match j.disk.findName j.call.base step with
            | .error refusal => refused refusal
            | .ok (place, ⟨.directory, _, _⟩) =>
              if (j.disk.children place).isEmpty then
                ({ j with disk := j.disk.unlink place }, false)
              else if Options.has given "ignore" then (j, true)
              else refused .notEmpty
            | .ok _ => refused .notDirectory) (j, false)).1

/-! ### Links -/

/-- `ln`: gives files more names. -/
def ln (j : Job) : Job :=
  j.withOptions 1 ⟨"bdfFiLnPrst:TvS:", [("force", "f"), ("interactive", "i"),
    ("no-dereference", "n"), ("symbolic", "s"), ("target-directory", "t"),
    ("no-target-directory", "T"), ("verbose", "v"), ("relative", "r"), ("physical", "P"),
    ("logical", "L")], false⟩ fun j given operands =>
    let soft := Options.has given "s"
    let force := Options.has given "f"
    let given := if Options.has given "n" && operands.length == 2 &&
      (match j.disk.findName j.call.base (operands.getD 1 "") with
        | .ok (_, ⟨.link _, _, _⟩) => true
        | _ => false) then ("T", none) :: given else given
    let plan := match operands with
      | [single] =>
        if Options.has given "t" || Options.has given "T" then planOf j given operands
        else .pairs [(single, "./" ++ baseName single)]
      | operands => planOf j given operands
    let kind := if soft then "symbolic link " else "hard link "
    match plan with
    | .wrong j => j
    | .pairs pairs =>
      j.forEach pairs fun j (source, target) =>
        match if soft then .ok ([], Disk.root) else j.disk.findName j.call.base source with
        | .error refusal => failWith j ("failed to access " ++ q source ++ ": " ++ refusal.detail)
        | .ok (place, node) =>
          if !soft && node.content == .directory then
            failWith j (source ++ ": hard link not allowed for directory")
          else
            let target := if "./".isPrefixOf target && operands.length == 1 then
                dropText 2 target else target
            match j.disk.locateName j.call.base target with
            | .error refusal =>
              failWith j ("failed to create " ++ kind ++ q target ++ ": " ++ refusal.detail)
            | .ok goal =>
              let present := (j.disk.node? goal).isSome
              let j' := if present && force then { j with disk := j.disk.unlink goal } else j
              if present && !force then
                failWith j ("failed to create " ++ kind ++ q target ++ ": File exists")
              else if j.disk.content? goal.dropLast != some .directory then
                failWith j ("failed to create " ++ kind ++ q target ++
                  (if soft then "" else " => " ++ q source) ++ ": No such file or directory")
              else
                let disk :=
                  if soft then j'.disk.make goal (.link source) 0o777
                  else match j.disk.number? place with
                    | some k => j'.disk.addName goal k
                    | none => j'.disk
                let j := { j' with disk }
                if Options.has given "v" then
                  j.write (q target ++ (if soft then " -> " else " => ") ++ q source ++ "\n")
                else j

/-! ### Changing -/

/-- Who may do what, in letters. -/
def permissionText (mode : Nat) : String :=
  let bit (n : Nat) (c : Char) : Char := if mode &&& n != 0 then c else '-'
  let special (n x : Nat) (c : Char) : Char :=
    if mode &&& n != 0 then (if mode &&& x != 0 then c else c.toUpper) else bit x 'x'
  String.ofList [bit 0o400 'r', bit 0o200 'w', special 0o4000 0o100 's', bit 0o40 'r',
    bit 0o20 'w', special 0o2000 0o10 's', bit 0o4 'r', bit 0o2 'w', special 0o1000 0o1 't']

/-- Permissions as digits and in letters. -/
def fullModeText (mode : Nat) : String :=
  let digits := Nat.toDigits 8 mode
  String.ofList (List.replicate (4 - digits.length) '0' ++ digits) ++ " (" ++
    permissionText mode ++ ")"

/-- `chmod`: changes who may do what with files. -/
def chmod (j : Job) : Job :=
  let isMode (a : String) : Bool :=
    "-".isPrefixOf a && 1 < a.length && (a.toList.drop 1).all fun c => "rwxXst,+=".toList.contains c
  -- A mode that takes rights away looks like an option.
  let arguments := match j.call.arguments.span fun a => !isMode a with
    | (before, mode :: after) => before ++ ["--", mode] ++ after
    | (all, []) => all
  { j with call := { j.call with arguments } }.withOptions 1 ⟨"cfRv", [("changes", "c"),
    ("silent", "f"), ("quiet", "f"), ("recursive", "R"), ("verbose", "v"),
    ("reference", "reference:")], false⟩ fun j given operands =>
    -- The permissions of another file may be meant.
    let model : Option (Except Refusal Node) := (Options.value? given "reference").map fun path =>
      (j.disk.find j.call.base path).map fun (f : Location × Node) => f.2
    let modes : Except String String × List String := match model, operands with
      | some (.error refusal), paths =>
        (.error ("failed to get attributes of " ++
          q ((Options.value? given "reference").getD "") ++ ": " ++ refusal.detail), paths)
      | some (.ok node), paths => (.ok (String.ofList (Nat.toDigits 8 node.mode)), paths)
      | none, mode :: paths => (.ok mode, paths)
      | none, [] => (.ok "", [])
    match modes, operands with
    | _, [] => j.missingOperand [] 1
    | (.error message, _), _ => failWith j message
    | (.ok mode, []), _ => j.misuse ("missing operand after " ++ q mode) 1
    | (.ok mode, paths), _ =>
      if (modeOf? j.call.mask false 0 mode).isNone then j.misuse ("invalid mode: " ++ q mode) 1
      else
        let tell (j : Job) (path : String) (before after : Nat) : Job :=
          if before != after && (Options.has given "v" || Options.has given "c") then
            j.write ("mode of " ++ q path ++ " changed from " ++ fullModeText before ++ " to " ++
              fullModeText after ++ "\n")
          else if Options.has given "v" then
            j.write ("mode of " ++ q path ++ " retained as " ++ fullModeText after ++ "\n")
          else j
        let all := if Options.has given "R" then
            paths.flatMap fun p => below j.disk j.call.base depthBound p
          else paths
        j.forEach all fun j path =>
          match j.disk.find j.call.base path with
          | .error refusal =>
            if Options.has given "f" then j.fail 1
            else failWith j ("cannot access " ++ q path ++ ": " ++ refusal.detail)
          | .ok (place, node) =>
            match modeOf? j.call.mask (node.content == Content.directory) node.mode mode with
            | some bits =>
              tell { j with disk := j.disk.setMode place bits } path node.mode bits
            | none => j
where
  /-- A path and all that is below it. -/
  below (d : Disk) (base : Location) : Nat → String → List String
    | 0, _ => []
    | n + 1, path =>
      match d.findName base path with
      | .ok (place, ⟨.directory, _, _⟩) =>
        path :: (d.children place).flatMap fun name => below d base n (entryPath path name)
      | .ok (_, ⟨.link _, _, _⟩) => []
      | _ => [path]

/-- `install`: copies files and says who may do what with the copies, or makes directories. -/
def install (j : Job) : Job :=
  j.withOptions 1 ⟨"bcCdDg:m:o:psS:t:Tv", [("backup", "backup::"), ("compare", "C"),
    ("directory", "d"), ("group", "g"), ("mode", "m"), ("owner", "o"), ("preserve-timestamps", "p"),
    ("strip", "s"), ("suffix", "S"), ("target-directory", "t"), ("no-target-directory", "T"),
    ("verbose", "v")], false⟩ fun j given operands =>
    let has := Options.has given
    let how : Copying := ⟨false, false, has "p", false, false, false, has "v", false, false⟩
    let chosen (mode : Nat) (j : Job) (path : String) : Job :=
      match j.disk.locate j.call.base path with
      | .ok place => { j with disk := j.disk.setMode place mode }
      | .error _ => j
    let makeAll (j : Job) (path : String) : Job :=
      (ancestors path).foldl (fun j step =>
        if leadsToDirectory j step then j
        else
          match j.disk.makeDirectory j.call.base step 0o755 with
          | .ok disk => { j with disk }
          | .error refusal =>
            failWith j ("cannot create directory " ++ q step ++ ": " ++ refusal.detail)) j
    match modeOf? 0 false 0 ((Options.value? given "m").getD "755") with
    | none => failWith j ("invalid mode " ++ q ((Options.value? given "m").getD ""))
    | some mode =>
      if has "d" then
        if operands.isEmpty then j.misuse "missing file operand" 1
        else j.forEach operands fun j path => chosen mode (makeAll j path) path
      else
        let j := match operands with
          | [_, target] =>
            let parts := Terrain.names target
            let above := (if Path.isAbsolute target then "/" else "") ++
              String.intercalate "/" parts.dropLast
            if has "D" && !has "t" && 1 < parts.length then makeAll j above else j
          | _ => if has "D" then ((Options.value? given "t").map (makeAll j)).getD j else j
        match planOf j given operands with
        | .wrong j => j
        | .pairs pairs => j.forEach pairs fun j pair =>
          if leadsToDirectory j pair.1 then failWith j ("omitting directory " ++ q pair.1)
          else
            let k := copyTree how depthBound j pair
            if k.status == 0 then chosen mode k pair.2 else k

/-- `tee`: writes its input to files as well. -/
def tee (j : Job) : Job :=
  j.withOptions 1 ⟨"aip", [("append", "a"), ("ignore-interrupts", "i"),
    ("output-error", "output-error::")], false⟩ fun j given paths =>
    let (input, j) := j.takeInput
    let (text, j) := match input with
      | .ok text => (text, j)
      | .error refusal => ("", (j.complain ("read error: " ++ refusal.detail)).fail 1)
    let j := paths.foldl (fun j path =>
      let before := if Options.has given "a" then
          (match j.disk.find j.call.base path with
            | .ok (_, ⟨.file octets, _, _⟩) => octets
            | _ => "") else ""
      match j.writeFile path (before ++ text) with
      | .ok j => j
      | .error refusal => j.refuse path refusal 1) j
    j.write text

/-- The size that a text asks for, given the size so far. -/
def newSize? (before : Nat) (text : String) : Option Nat :=
  match text.toList with
  | [] => none
  | sign :: r =>
    let amount := count? (String.ofList r)
    match sign with
    | '+' => amount.map (before + ·)
    | '-' => amount.map (before - ·)
    | '<' => amount.map (min before ·)
    | '>' => amount.map (max before ·)
    | '/' => amount.bind fun n => if n == 0 then none else some (before / n * n)
    | '%' => amount.bind fun n => if n == 0 then none else some ((before + n - 1) / n * n)
    | _ => count? text

/-- `truncate`: gives files another size. -/
def truncate (j : Job) : Job :=
  j.withOptions 1 ⟨"cor:s:", [("no-create", "c"), ("io-blocks", "o"), ("reference", "r"),
    ("size", "s")], false⟩ fun j given paths =>
    let size := Options.value? given "s"
    let reference := Options.value? given "r"
    let sizeOf (path : String) : Nat := match j.disk.find j.call.base path with
      | .ok (_, ⟨.file octets, _, _⟩) => octets.length
      | _ => 0
    match size, reference with
    | none, none => j.misuse "you must specify either '--size' or '--reference'" 1
    | size, reference =>
      if size.any fun t => (newSize? 0 t).isNone then
        failWith j ("Invalid number: " ++ q (size.getD ""))
      else if paths.isEmpty then j.misuse "missing file operand" 1
      else
        j.forEach paths fun j path =>
          let before := match j.disk.find j.call.base path with
            | .ok (_, ⟨.file octets, _, _⟩) => some octets
            | _ => none
          let octets := before.getD ""
          let base := match reference with
            | some r => sizeOf r
            | none => octets.length
          let target := match size with
            | some t => (newSize? base t).getD 0
            | none => base
          if before.isNone && Options.has given "c" then j
          else
            let text := takeText target octets ++
              String.ofList (List.replicate (target - octets.length) '\x00')
            match j.writeFile path text with
            | .ok j => j
            | .error refusal =>
              failWith j ("cannot open " ++ q path ++ " for writing: " ++ refusal.detail)

end EnvProfiles.Tool
