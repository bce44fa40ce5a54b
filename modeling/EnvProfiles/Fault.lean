import EnvProfiles.Profile.Fault

/-!
# What Can Go Wrong

Every cause for which a command ends without doing its work, sorted by the part
of the program in which it arises, and the wording of each. The wording of a
fault that wraps another begins with the part and goes on with the fault within;
a report names, after the wording of a fault, the faults within it once more,
from the outside inwards.

Where the operating system, the database or a reader of settings has words of
its own for a cause, those words are carried along as `detail`.

## Main definitions

* `StoreFault`, `SettingsFault`, `ChildFault`, `FileFault`: The causes that
  arise in one part of the program.
* `Fault`: Any cause.
* `Fault.message`: The wording of a cause.
* `Fault.report`: What is printed when a command ends with a cause.
-/

namespace EnvProfiles

/-- What can go wrong with a store of profiles. -/
inductive StoreFault where
  /-- There is nothing under the key that is to be renamed. -/
  | notFound (key : String)
  /-- A database cannot be opened. -/
  | unopenable (path detail : String)
  /-- The database refuses an operation. -/
  | refused (detail : String)
deriving DecidableEq, Repr

/-- What can go wrong with settings. -/
inductive SettingsFault where
  /-- The sources of the settings cannot be read or do not have the form of settings. -/
  | unreadable (detail : String)
  /-- A value of an option is out of its range. -/
  | invalidValue (group key detail : String)
  /-- A value that is needed cannot be found out. -/
  | notFound (what : String)
deriving DecidableEq, Repr

/-- What can go wrong with another program. -/
inductive ChildFault where
  /-- No directory of the search path holds the program. -/
  | notFound (name : String)
  /-- The program cannot be started with its arguments. -/
  | notStarted (command detail : String)
  /-- No editor has been chosen. -/
  | noEditor
deriving DecidableEq, Repr

/-- What can go wrong with files. -/
inductive FileFault where
  /-- There is no directory at a path. -/
  | notFound (path : String)
  /-- A key cannot name a file. -/
  | invalidName (name : String)
  /-- The operating system refuses an operation on a path. -/
  | refused (path detail : String)
deriving DecidableEq, Repr

namespace StoreFault

/-- The wording of a fault of a store. -/
def message : StoreFault → String
  | notFound key => "key not found: " ++ key
  | unopenable path detail => "failed to open database '" ++ path ++ "': " ++ detail
  | refused detail => "sqlite error: " ++ detail

/-- The words of the system for the cause, if it has any. -/
def detail? : StoreFault → Option String
  | notFound _ => none
  | unopenable _ detail => some detail
  | refused detail => some detail

end StoreFault

/-- The wording of a fault of settings. -/
def SettingsFault.message : SettingsFault → String
  | unreadable detail => "failed to parse config: " ++ detail
  | invalidValue group key detail =>
    "invalid value for '" ++ key ++ "' in section '[" ++ group ++ "]': " ++ detail
  | notFound what => "cannot determine " ++ what

namespace ChildFault

/-- The wording of a fault of another program. -/
def message : ChildFault → String
  | notFound name => "executable not found: '" ++ name ++ "' (not in PATH)"
  | notStarted command detail => "failed to spawn process '" ++ command ++ "': " ++ detail
  | noEditor => "no editor configured: set $EDITOR or editor.command"

/-- The words of the system for the cause, if it has any. -/
def detail? : ChildFault → Option String
  | notStarted _ detail => some detail
  | _ => none

end ChildFault

namespace FileFault

/-- The wording of a fault of files. -/
def message : FileFault → String
  | notFound path => "path not found: " ++ path
  | invalidName name => "'" ++ name ++ "' cannot be used as a file name"
  | refused path detail => "I/O error on '" ++ path ++ "': " ++ detail

/-- The words of the system for the cause, if it has any. -/
def detail? : FileFault → Option String
  | refused _ detail => some detail
  | _ => none

end FileFault

/-- Any cause for which a command ends without doing its work. -/
inductive Fault where
  /-- The command cannot go on, for a reason that is not a fault of one part. -/
  | fatal (reason : String)
  | profile (cause : ProfileFault)
  | store (cause : StoreFault)
  | settings (cause : SettingsFault)
  | child (cause : ChildFault)
  | files (cause : FileFault)
  /-- Reading or writing fails without a path that could be named. -/
  | io (detail : String)
  | other (text : String)
deriving DecidableEq, Repr

namespace Fault

/-- The wording of a cause. -/
def message : Fault → String
  | fatal reason => "fatal error: " ++ reason
  | profile cause => "profile error: " ++ cause.message
  | store cause => "store error: " ++ cause.message
  | settings cause => "config error: " ++ cause.message
  | child cause => "process error: " ++ cause.message
  | files cause => "filesystem error: " ++ cause.message
  | io detail => "io error: " ++ detail
  | other text => text

/-- The wordings of the causes within a cause, from the outside inwards. -/
def causes : Fault → List String
  | fatal _ => []
  | profile cause => [cause.message]
  | store cause => cause.message :: cause.detail?.toList
  | settings cause => [cause.message]
  | child cause => cause.message :: cause.detail?.toList
  | files cause => cause.message :: cause.detail?.toList
  | io detail => [detail]
  | other _ => []

/-- What is printed when a command ends with a cause. -/
def report (fault : Fault) : String := String.intercalate ": " (fault.message :: fault.causes)

/-- The fault of a profile that the cause is, if it is one. -/
def profile? : Fault → Option ProfileFault
  | profile cause => some cause
  | _ => none

/-- The fault of a store that the cause is, if it is one. -/
def store? : Fault → Option StoreFault
  | store cause => some cause
  | _ => none

end Fault

end EnvProfiles
