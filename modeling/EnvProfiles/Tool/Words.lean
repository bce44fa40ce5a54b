import EnvProfiles.Tool.Condition
import EnvProfiles.Tool.Lines
import EnvProfiles.Tool.Printf

/-!
# Words

Programs that do something with their arguments alone: write them, take paths
apart, or answer a question by their status.

## Main definitions

* `Tool.echo`, `Tool.printf`, `Tool.yes`: Write arguments.
* `Tool.test`: Answers a condition.
* `Tool.basename`, `Tool.dirname`: The end of a path, and what is before it.
* `Tool.printenv`: Shows variables of the environment.
-/

namespace EnvProfiles.Tool

/-- `true`: does nothing. -/
def succeed (j : Job) : Job := j

/-- `false`: says no. -/
def refuseAll (j : Job) : Job := j.fail 1

/-- `echo`: writes its arguments. -/
def echo (j : Job) : Job :=
  match j.call.arguments with
  | ["--help"] | ["--version"] => j
  | arguments => j.write (Escape.echoProgram arguments)

/-- `printf`: writes its arguments by a format. -/
def printf (j : Job) : Job :=
  match j.call.arguments with
  | ["--help"] | ["--version"] => j
  | arguments =>
    match if arguments.head? == some "--" then arguments.drop 1 else arguments with
    | [] => j.missingOperand [] 1
    | format :: r =>
      let (pieces, status) := Printf.run .program format r
      let j := pieces.foldl (fun j (descriptor, text) =>
        if descriptor == 2 then j.complain text else j.write text) j
      j.fail status

/-- The condition of a call, or what is wrong with it. -/
def answer (j : Job) (words : List String) : Job :=
  match Condition.holds ⟨j.disk, j.call.base⟩ words with
  | .ok holds => if holds then j else j.fail 1
  | .error message => (j.complain message).fail 2

/-- `test`: answers a condition. -/
def test (j : Job) : Job := answer j j.call.arguments

/-- `[`: answers a condition that a bracket ends. -/
def bracket (j : Job) : Job :=
  match j.call.arguments with
  | ["--help"] | ["--version"] => j
  | arguments =>
    if arguments.getLast? == some "]" then answer j arguments.dropLast
    else (j.complain "missing ']'").fail 2

/-- How much `yes` writes: more than anybody reads. -/
def yesLimit : Nat := Machine.sinkLimit + 1

/-- `yes`: writes a line over and over. -/
def yes (j : Job) : Job :=
  match j.call.arguments with
  | ["--help"] | ["--version"] => j
  | arguments =>
    let words := if arguments.head? == some "--" then arguments.drop 1 else arguments
    let line := (if words.isEmpty then "y" else String.intercalate " " words) ++ "\n"
    let block := String.join (List.replicate (yesLimit / line.length + 1) line)
    (j.send block).send line

/-- `printenv`: shows variables of the environment. -/
def printenv (j : Job) : Job :=
  j.withOptions 2 ⟨"0", [("null", "0")], true⟩ fun j given names =>
    let stop := if Options.has given "0" then "\x00" else "\n"
    if names.isEmpty then
      j.forEach j.call.environment fun j (name, value) => j.write (name ++ "=" ++ value ++ stop)
    else
      j.forEach names fun j name =>
        match if name.toList.contains '=' then none else j.valueOf? name with
        | some value => j.write (value ++ stop)
        | none => j.fail 1

/-! ### Paths -/

/-- A path without the slashes at its end, unless it has nothing else. -/
def withoutSlashes (cs : List Char) : List Char :=
  match (cs.reverse.dropWhile (· == '/')).reverse with
  | [] => cs.take 1
  | cs => cs

/-- The end of a path. -/
def baseName (path : String) : String :=
  let cs := withoutSlashes path.toList
  if cs == ['/'] then "/" else String.ofList (cs.reverse.takeWhile (· != '/')).reverse

/-- A path without its end. -/
def dirName (path : String) : String :=
  let cs := withoutSlashes path.toList
  if cs == ['/'] then "/"
  else
    match cs.reverse.dropWhile (· != '/') with
    | [] => "."
    | r => String.ofList (withoutSlashes r.reverse)

/-- A name without an ending, unless it is nothing else. -/
def withoutEnding (name ending : String) : String :=
  let (cs, es) := (name.toList, ending.toList)
  if es.length < cs.length && es.isSuffixOf cs then
    String.ofList (cs.take (cs.length - es.length))
  else name

/-- `basename`: shows the ends of paths. -/
def basename (j : Job) : Job :=
  j.withOptions 1 ⟨"as:z", [("multiple", "a"), ("suffix", "s"), ("zero", "z")], true⟩
    fun j given paths =>
      let stop := Lines.stopOf given "z"
      let several := Options.has given "a" || Options.has given "s"
      match paths, several with
      | [], _ => j.missingOperand [] 1
      | _ :: _ :: extra :: _, false => j.extraOperand extra 1
      | [path, ending], false => j.write ((withoutEnding (baseName path) ending).push stop)
      | paths, _ =>
        let ending := (Options.value? given "s").getD ""
        j.forEach paths fun j path =>
          let name := baseName path
          j.write ((if ending == "" then name else withoutEnding name ending).push stop)

/-- `dirname`: shows paths without their ends. -/
def dirname (j : Job) : Job :=
  j.withOptions 1 ⟨"z", [("zero", "z")], true⟩ fun j given paths =>
    if paths.isEmpty then j.missingOperand [] 1
    else j.forEach paths fun j path => j.write ((dirName path).push (Lines.stopOf given "z"))

end EnvProfiles.Tool
