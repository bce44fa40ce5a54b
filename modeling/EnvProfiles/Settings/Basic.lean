import EnvProfiles.Log.Level

/-!
# Settings

What can be set, and what holds when nothing is set.

## Main definitions

* `Settings`: All settings, in four groups.
* `Settings.standard`: The settings when nothing is set.
* `ExportSettings.fileName`, `ExportSettings.keyFor`: The name of the file of a
  key, and the key of a file.
-/

namespace EnvProfiles

/-- Where the profiles are kept. -/
structure StoreSettings where
  /-- The path of the database; there is a default place in the home directory. -/
  path : Option String
deriving DecidableEq, Repr

/-- How profiles are written to files and read from them. -/
structure ExportSettings where
  /-- The directory to which profiles are written. -/
  outdir : String
  /-- What a file name ends in, after a dot. -/
  extension : String
deriving DecidableEq, Repr

/-- With which program profiles are edited. -/
structure EditorSettings where
  /-- The program with its arguments; the environment decides if there is none. -/
  command : Option String
deriving DecidableEq, Repr

/-- What is logged. -/
structure LogSettings where
  level : LogLevel
  fileLevel : LogLevel
  /-- The file that messages are added to, if there is one. -/
  file : Option String
deriving DecidableEq, Repr

/-- All settings. -/
structure Settings where
  store : StoreSettings
  transfer : ExportSettings
  editor : EditorSettings
  log : LogSettings
deriving DecidableEq, Repr

namespace ExportSettings

/-- What holds when nothing is set. -/
def standard : ExportSettings := ⟨"env-data", "yml"⟩

/-- The name of the file to which the text of a key is written. -/
def fileName (s : ExportSettings) (key : String) : String := key ++ "." ++ s.extension

/-- A text without what it ends in, if it ends in that. -/
def withoutSuffix? (cs ending : List Char) : Option (List Char) :=
  if ending.isSuffixOf cs then some (cs.take (cs.length - ending.length)) else none

/-- What stands before the dot and the extension in a file name, if that is not empty. -/
def stem? (s : ExportSettings) (file : String) : Option String := do
  let cs ← withoutSuffix? file.toList s.extension.toList
  let cs ← withoutSuffix? cs ['.']
  if cs.isEmpty then none else return String.ofList cs

/-- The key under which a file is stored: its name without the extension, if it has that. -/
def keyFor (s : ExportSettings) (file : String) : String := (s.stem? file).getD file

end ExportSettings

/-- The settings when nothing is set. -/
def Settings.standard : Settings := ⟨⟨none⟩, .standard, ⟨none⟩, ⟨.warn, .debug, none⟩⟩

end EnvProfiles
