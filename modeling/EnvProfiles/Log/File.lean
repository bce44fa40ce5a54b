import EnvProfiles.Files.FileSystem
import EnvProfiles.Log.Options
import EnvProfiles.Settings.Basic

/-!
# The File of Messages

The file that messages are added to. It is opened before anything else is done,
and made if it is missing, with the directories above it.

## Main definitions

* `LogFault`: Why the file cannot be opened.
* `LogOptions.ofSettings`: The options of logging that settings amount to.
* `LogOptions.openFile`: The files after the file of messages has been opened.
-/

namespace EnvProfiles

/-- Why the file of messages cannot be opened. -/
inductive LogFault where
  | directory (path : String)
  | file (path : String)
deriving DecidableEq, Repr

/-- The wording of a fault of logging. -/
def LogFault.message : LogFault → String
  | directory path => "failed to create log directory " ++ path
  | file path => "failed to open log file " ++ path

namespace LogOptions

/-- The options of logging that settings amount to. -/
def ofSettings (s : LogSettings) : LogOptions :=
  { standard with console := s.level, fileLevel := s.fileLevel, file := s.file }

/-- The files after the file of a path has been opened. -/
def openAt (path : String) (fs : FileSystem) : Except LogFault Unit × FileSystem :=
  let above := (Path.parent? path).getD ""
  match fs.makeDirectories above with
  | (.error _, fs) => (.error (.directory above), fs)
  | (.ok (), fs) =>
    match fs.append path "" with
    | .ok fs => (.ok (), fs)
    | .error _ => (.error (.file path), fs)

/-- The files after the file of messages has been opened, if there is to be one. -/
def openFile (o : LogOptions) (fs : FileSystem) : Except LogFault Unit × FileSystem :=
  match o.file with
  | none => (.ok (), fs)
  | some path => openAt path fs

end LogOptions

end EnvProfiles
