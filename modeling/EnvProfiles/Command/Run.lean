import EnvProfiles.Command.Completion
import EnvProfiles.Command.Environment
import EnvProfiles.Command.RunRequest
import EnvProfiles.Launch

/-!
# Using an Environment

Printing the environment of some profiles, or running a program in it. What is
to be done is settled first, as a plan, and only then is anything printed or
started: a request that does not say what to do, a profile that cannot be
resolved and a program that cannot be found each leave no trace.

## Main definitions

* `Plan`: What is printed or started in the end.
* `Command.plan`: The plan of a request, given the store.
* `Plan.carryOut`: Prints or starts what was planned.
* `Command.run`: What a request comes to.
-/

namespace EnvProfiles

/-- What is printed or started in the end. -/
inductive Plan where
  | print (text : String)
  | start (launch : Launch)
deriving DecidableEq, Repr

namespace Command

/-- What is printed for an environment: its text with a line feed after it, or nothing if the text
is empty. -/
def printed (form : Rendering) (exports : Dict) : String :=
  let text := form.render exports
  if text == "" then "" else text ++ "\n"

/-- The launch of a program in the environment of profiles. -/
def launchIn (host : Host) (fs : FileSystem) (outer exports : Dict) (clean : Bool)
    (program : String) (arguments : List String) : Except Fault Launch :=
  match Launch.locate host fs outer program with
  | .error fault => .error (.child fault)
  | .ok launch =>
    .ok (((launch.withArguments arguments).withVariables exports).withClean clean)

/-- The plan of a request, given the store, the list of keys that holds if the request names none,
and the environment and the files at hand. -/
def plan {σ : Type} [KeyStore σ] (store : σ) (request : RunRequest) (list : Option String)
    (host : Host) (outer : Dict) (fs : FileSystem) : Except Fault Plan :=
  match request.action with
  | .error fault => .error fault
  | .ok action =>
    match environment store (request.profileKeys list) with
    | .error fault => .error fault
    | .ok exports =>
      match action with
      | .print form => .ok (.print (printed form exports))
      | .start program arguments =>
        (launchIn host fs outer exports request.cleanEnvironment program arguments).map .start

end Command

/-- Prints or starts what was planned. The program that is started decides the code. -/
def Plan.carryOut (host : Host) (outer : Dict) (fs : FileSystem) : Plan → Completion
  | print text => .done text fs
  | start launch =>
    match launch.run host outer fs with
    | .error fault => .failed (.child fault) fs
    | .ok finish =>
      ⟨.ok finish.ending.code, finish.output, finish.complaints, finish.files⟩

/-- What a request comes to. A request that does not say what to do does not open the store. -/
def Command.run (settings : Settings) (home : String) (request : RunRequest) (list : Option String)
    (host : Host) (outer : Dict) (fs : FileSystem) : Completion :=
  match request.action with
  | .error fault => .failed fault fs
  | .ok _ =>
    match Database.openAt fs (settings.storePath home) with
    | (.error fault, fs) => .failed fault fs
    | (.ok db, fs) =>
      -- The store is closed before anything is started.
      let fs := db.close fs
      match plan db request list host outer fs with
      | .error fault => .failed fault fs
      | .ok plan => plan.carryOut host outer fs

end EnvProfiles
