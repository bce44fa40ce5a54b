import EnvProfiles.Fault
import EnvProfiles.Rendering
import EnvProfiles.Text.Blank

/-!
# Requests to Use an Environment

What a user asks for who wants the environment of some profiles: to have it
printed, or to have a program run in it. The profiles are named in the request,
or else in a list that the environment holds.

## Main definitions

* `RunRequest`: What was asked for.
* `RunRequest.profileKeys`: The profiles whose environment is wanted.
* `RunRequest.action`: What is to be done with the environment.
-/

namespace EnvProfiles

/-- What was asked for by somebody who wants the environment of some profiles. -/
structure RunRequest where
  keys : List String
  /-- Whether the environment is to be printed. -/
  printed : Bool
  /-- Whether it is to be printed as JSON. -/
  json : Bool
  /-- Whether the program is to see nothing but the environment of the profiles. -/
  cleanEnvironment : Bool
  /-- The program and its arguments. -/
  command : List String
deriving DecidableEq, Repr

/-- What is done with an environment. -/
inductive RunAction where
  | print (form : Rendering)
  | start (program : String) (arguments : List String)
deriving DecidableEq, Repr

namespace RunRequest

/-- The keys in a list: the items between commas, without white space around them and without
those that are empty then. -/
def splitKeys (list : String) : List String :=
  (((splitAt ',' list.toList).map trim).filter fun k => !k.isEmpty).map String.ofList

/-- The profiles whose environment is wanted: those of the request, or those of a list if the
request names none. -/
def profileKeys (r : RunRequest) (list : Option String) : List String :=
  if r.keys.isEmpty then (list.map splitKeys).getD [] else r.keys

/-- What is to be done with the environment; a request may fail to say. -/
def action (r : RunRequest) : Except Fault RunAction :=
  match r.command with
  | program :: arguments => .ok (.start program arguments)
  | [] =>
    if r.printed then .ok (.print (if r.json then .json else .lines))
    else .error (.fatal "nothing to run: pass a command or --export")

end RunRequest

end EnvProfiles
