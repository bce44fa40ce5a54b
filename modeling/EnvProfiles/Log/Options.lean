import EnvProfiles.Log.Level

/-!
# Options of Logging

Where messages go and how many of them. The console shows warnings unless it is
told otherwise; a file, which is optional, receives a little more.

## Main definitions

* `LogOptions`: Where messages go and how many.
* `LogOptions.build`: The options with the given ones in place of the defaults.
-/

namespace EnvProfiles

/-- Where messages go and how many of them. -/
structure LogOptions where
  console : LogLevel
  fileLevel : LogLevel
  file : Option String
  /-- Whether a message names the part of the program that it comes from. -/
  showTarget : Bool
deriving DecidableEq, Repr

namespace LogOptions

/-- The options when nothing is asked for. -/
def standard : LogOptions := ⟨.warn, .debug, none, false⟩

/-- The level of a number if one is given, and a default otherwise. -/
def level (default : LogLevel) : Option Nat → Except SettingsFault LogLevel
  | none => .ok default
  | some n => LogLevel.checked n

/-- The options with the given ones in place of the defaults; the level of the console is checked
before that of the file. -/
def build (console fileLevel : Option Nat) (file : Option String) (showTarget : Option Bool) :
    Except SettingsFault LogOptions := do
  let console ← level standard.console console
  let fileLevel ← level standard.fileLevel fileLevel
  return ⟨console, fileLevel, file, showTarget.getD standard.showTarget⟩

end LogOptions

end EnvProfiles
