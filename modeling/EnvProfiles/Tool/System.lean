import EnvProfiles.Tool.Listing

/-!
# The System

Programs that ask the machine about itself, wait, or deal with time. The machine
has one user, who may do everything, and its time only goes on when something is
done.

## Main definitions

* `Tool.touch`, `Tool.date`, `Tool.sleep`: Deal with time.
* `Tool.identity`, `Tool.whoami`, `Tool.uname`: Tell who and where the user is.
* `Tool.mktemp`: Makes a file with a new name.
-/

namespace EnvProfiles.Tool

/-- The present, in seconds. -/
def presentSeconds (j : Job) : Int := j.disk.time / 1000000000

/-- The time that digits stand for: month, day, hour and minute, before which the year may
stand, and seconds after a point. -/
def stampSeconds? (year : Int) (text : String) : Option Int :=
  let cs := text.toList
  let digits := cs.takeWhile Char.isDigit
  let second : Option Nat := match cs.drop digits.length with
    | [] => some 0
    | ['.', a, b] => (String.ofList [a, b]).toNat?
    | _ => none
  let pair (i : Nat) : Nat := ((String.ofList ((digits.drop i).take 2)).toNat?).getD 0
  let date : Option (Int × Nat) := match digits.length with
    | 8 => some (year, 0)
    | 10 => some (if pair 0 < 69 then 2000 + pair 0 else 1900 + pair 0, 2)
    | 12 => some ((pair 0 * 100 + pair 2 : Nat), 4)
    | _ => none
  match date, second with
  | some (year, i), some second =>
    some (Date.toSeconds ⟨year, pair i, pair (i + 2), pair (i + 4), pair (i + 6), second⟩)
  | _, _ => none

/-- `touch`: makes files, or says that they were changed. -/
def touch (j : Job) : Job :=
  j.withOptions 1 ⟨"acd:fhmr:t:", [("no-create", "c"), ("date", "d"), ("no-dereference", "h"),
    ("reference", "r"), ("time", "time:")], false⟩ fun j given paths =>
    let now := presentSeconds j
    let nanos (seconds : Int) : Nat := (seconds * 1000000000).toNat
    let time : Except String (Option Nat) :=
      match Options.value? given "d", Options.value? given "t", Options.value? given "r" with
      | some text, _, _ => match Date.ofText? now text with
        | some s => .ok (some (nanos s))
        | none => .error ("invalid date format " ++ q text)
      | none, some text, _ => match stampSeconds? (Date.ofSeconds now).year text with
        | some s => .ok (some (nanos s))
        | none => .error ("invalid date format " ++ q text)
      | none, none, some path => match j.disk.find j.call.base path with
        | .ok (_, node) => .ok (some node.changed)
        | .error refusal => .error ("failed to get attributes of " ++ q path ++ ": " ++
            refusal.detail)
      | none, none, none => .ok none
    match time with
    | .error message => failWith j message
    | .ok time =>
      if paths.isEmpty then j.misuse "missing file operand" 1
      else
        j.forEach paths fun j path =>
          let stamp (d : Disk) (place : Location) : Disk :=
            let d := d.tick
            if Options.has given "a" && !Options.has given "m" then d
            else d.setChanged place (time.getD d.time)
          match j.disk.find j.call.base path with
          | .ok (place, _) => { j with disk := stamp j.disk place }
          | .error refusal =>
            if Options.has given "c" && refusal == .absent then j
            else
              match if Terrain.endsWithSlash path then .error refusal else j.writeFile path ""
                with
              | .error refusal => failWith j ("cannot touch " ++ q path ++ ": " ++ refusal.detail)
              | .ok j =>
                match j.disk.find j.call.base path with
                | .ok (place, _) => { j with disk := stamp j.disk place }
                | .error _ => j

/-- `date`: shows a date. -/
def date (j : Job) : Job :=
  j.withOptions 1 ⟨"d:f:I::r:Rs:u", [("date", "d"), ("reference", "r"), ("utc", "u"),
    ("universal", "u"), ("rfc-email", "R"), ("iso-8601", "I"), ("rfc-3339", "rfc-3339:")], false⟩
    fun j given operands =>
    let now := presentSeconds j
    let time : Except String Int :=
      match Options.value? given "d", Options.value? given "r" with
      | some text, _ => match Date.ofText? now text with
        | some s => .ok s
        | none => .error ("invalid date " ++ q text)
      | none, some path => match j.disk.find j.call.base path with
        | .ok (_, node) => .ok (node.changed / 1000000000)
        | .error refusal => .error (path ++ ": " ++ refusal.detail)
      | none, none => .ok now
    match time with
    | .error message => failWith j message
    | .ok seconds =>
      let shown (format : String) : Job :=
        j.write (String.ofList ((Date.ofSeconds seconds).format 0 format.toList) ++ "\n")
      match operands with
      | [] =>
        if Options.has given "R" then shown "%a, %d %b %Y %T +0000"
        else if Options.has given "I" then
          match (Options.value? given "I").getD "date" with
          | "seconds" => shown "%Y-%m-%dT%T+00:00"
          | "minutes" => shown "%Y-%m-%dT%R+00:00"
          | "hours" => shown "%Y-%m-%dT%H+00:00"
          | _ => shown "%F"
        else shown "%a %b %e %T UTC %Y"
      | [format] =>
        if "+".isPrefixOf format then shown (dropText 1 format)
        else failWith j ("invalid date " ++ q format)
      | _ :: extra :: _ => j.extraOperand extra 1

/-- How many milliseconds a text of a number and a unit stands for. -/
def pause? (text : String) : Option Nat := do
  let (unit, number) := match text.toList.reverse with
    | 's' :: r => (1, r.reverse)
    | 'm' :: r => (60, r.reverse)
    | 'h' :: r => (3600, r.reverse)
    | 'd' :: r => (86400, r.reverse)
    | _ => (1, text.toList)
  if number.isEmpty || number.head?.any fun c => isSpace c then none
  match Floating.ofText? 64 number with
  | some (.finite false mantissa exponent, []) =>
    let (a, b) := Floating.ratio mantissa exponent
    some ((a * unit * 1000 + b - 1) / b)
  | _ => none

/-- `sleep`: waits. -/
def sleep (j : Job) : Job :=
  j.withOptions 1 ⟨"", [], false⟩ fun j _ texts =>
    if texts.isEmpty then j.missingOperand [] 1
    else
      let bad := texts.filter fun t => (pause? t).isNone
      match bad with
      | [] =>
        let time := (texts.filterMap pause?).foldl (· + ·) 0
        { j with
          elapsed := j.elapsed + time
          disk := { j.disk with time := j.disk.time + time * 1000000 } }
      | bad =>
        let j := bad.foldl (fun j t => j.complain ("invalid time interval " ++ q t)) j
        (j.sendTo 2 ("Try '" ++ j.call.name ++ " --help' for more information.\n")).fail 1

/-- Writes a line, given that no argument is allowed. -/
def plainAnswer (text : String) (j : Job) : Job :=
  j.withOptions 1 ⟨"", [], false⟩ fun j _ operands =>
    match operands with
    | [] => j.write (text ++ "\n")
    | extra :: _ => j.extraOperand extra 1

/-- `whoami`: tells the name of the user. -/
def whoami : Job → Job := plainAnswer "root"

/-- `id`: tells who the user is. -/
def identity (j : Job) : Job :=
  j.withOptions 1 ⟨"agGnruzZ", [("group", "g"), ("groups", "G"), ("name", "n"), ("real", "r"),
    ("user", "u"), ("zero", "z")], false⟩ fun j given users =>
    let has := Options.has given
    let missing := users.filter fun u => u != "root" && u != "0"
    match missing with
    | u :: _ => failWith j (q u ++ ": no such user")
    | [] =>
      if has "u" || has "g" || has "G" then j.write (if has "n" then "root\n" else "0\n")
      else if has "n" || has "r" then
        failWith j "cannot print only names or real IDs in default format"
      else j.write "uid=0(root) gid=0(root) groups=0(root)\n"

/-- `groups`: tells the groups of the user. -/
def groupsOf (j : Job) : Job :=
  j.withOptions 1 ⟨"", [], false⟩ fun j _ users =>
    if users.isEmpty then j.write "root\n"
    else j.forEach users fun j u =>
      if u == "root" then j.write "root : root\n" else failWith j (q u ++ ": no such user")

/-- The name of the machine. -/
def hostName : String := "localhost"

/-- `hostname`: tells the name of the machine. -/
def hostname (j : Job) : Job := j.write (hostName ++ "\n")

/-- `uname`: tells what the machine is. -/
def uname (j : Job) : Job :=
  j.withOptions 1 ⟨"asnrvmpio", [("all", "a"), ("kernel-name", "s"), ("nodename", "n"),
    ("kernel-release", "r"), ("kernel-version", "v"), ("machine", "m"), ("processor", "p"),
    ("hardware-platform", "i"), ("operating-system", "o")], false⟩ fun j given operands =>
    match operands with
    | extra :: _ => j.extraOperand extra 1
    | [] =>
      let wanted (key : String) : Bool := Options.has given key ||
        (Options.has given "a" && key != "p" && key != "i") || (given.isEmpty && key == "s")
      let facts := [("s", "Linux"), ("n", hostName), ("r", "6.1.0"), ("v", "#1 SMP"),
        ("m", "x86_64"), ("p", "unknown"), ("i", "unknown"), ("o", "GNU/Linux")]
      j.write (String.intercalate " " (facts.filterMap fun (k, v) =>
        if wanted k then some v else none) ++ "\n")

/-- `logname`: tells that nobody has logged in. -/
def logname (j : Job) : Job :=
  j.withOptions 1 ⟨"", [], false⟩ fun j _ operands =>
    match operands with
    | [] => failWith j "no login name"
    | extra :: _ => j.extraOperand extra 1

/-- `nproc`: tells how many processors there are. -/
def nproc (j : Job) : Job :=
  j.withOptions 1 ⟨"", [("all", "all"), ("ignore", "ignore:")], false⟩ fun j _ _ => j.write "1\n"

/-- `tty`: tells that there is no terminal. -/
def tty (j : Job) : Job :=
  j.withOptions 2 ⟨"s", [("silent", "s"), ("quiet", "s")], false⟩ fun j given _ =>
    (if Options.has given "s" then j else j.write "not a tty\n").fail 1

/-- The letters that stand for a new name, given a number. -/
def nameLetters (count n : Nat) : List Char :=
  let letters := "abcdefghijklmnopqrstuvwxyzABCDEFGHIJKLMNOPQRSTUVWXYZ0123456789".toList
  (List.range count).map fun i =>
    letters.getD ((n * 7919 / Nat.pow 62 i + n * (i + 3) + 11 * i) % 62) 'x'

/-- A name that is not taken, made from a template. The bound is on how many are tried. -/
def freshName (j : Job) (make : Nat → String) : Nat → Nat → String
  | 0, n => make n
  | k + 1, n =>
    if (j.disk.findName j.call.base (make n)).isOk then freshName j make k (n + 1) else make n

/-- `mktemp`: makes a file with a new name. -/
def mktemp (j : Job) : Job :=
  j.withOptions 1 ⟨"dp:qtu", [("directory", "d"), ("dry-run", "u"), ("quiet", "q"),
    ("suffix", "suffix:"), ("tmpdir", "tmpdir::")], false⟩ fun j given operands =>
    let has := Options.has given
    match operands with
    | _ :: _ :: _ => j.misuse "too many templates" 1
    | operands =>
      let template := operands.head?.getD "tmp.XXXXXXXXXX"
      let suffix := (Options.value? given "suffix").getD ""
      let marks := (template.toList.reverse.takeWhile (· == 'X')).length
      if marks < 3 then failWith j ("too few X's in template " ++ q (template ++ suffix))
      else
        let temporary := (j.valueOf? "TMPDIR").getD "/tmp"
        let directory := (Options.value? given "p").orElse fun _ =>
          (Options.value? given "tmpdir").orElse fun _ =>
            if operands.isEmpty || has "t" || has "tmpdir" then some temporary else none
        let start := (directory.map fun d => d ++ "/").getD "" ++
          takeText (template.length - marks) template
        let make (n : Nat) : String := start ++ String.ofList (nameLetters marks n) ++ suffix
        let path := freshName j make 1000 (j.call.process * 17 + j.disk.next)
        let made : Except Refusal Job :=
          if has "u" then .ok j
          else if has "d" then
            (j.disk.makeDirectory j.call.base path 0o700).map fun disk => { j with disk }
          else (j.disk.write j.call.base path "" 0o600).map fun disk => { j with disk }
        match made with
        | .ok j => j.write (path ++ "\n")
        | .error refusal =>
          failWith j ("failed to create " ++ (if has "d" then "directory" else "file") ++
            " via template " ++ q (start ++ String.ofList (List.replicate marks 'X') ++ suffix) ++
            ": " ++ refusal.detail)

end EnvProfiles.Tool
