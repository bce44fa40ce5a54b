import EnvProfiles.Settings.Basic
import EnvProfiles.Settings.Value

/-!
# From Values to Settings

What a table of values says as settings. A group of options is a table, or an
array with the options in their order; an option that is missing keeps its
default, and one that does not exist is an error. An option that is a text takes
any single value, and a level takes whatever can be read as a number.

## Main definitions

* `Setting.level?`: The level of logging that a value denotes.
* `Settings.ofSetting?`: The settings that a table of values denotes.
-/

namespace EnvProfiles

namespace Setting

/-- A number of at least zero rounded to a whole one, a half away from zero. Numbers below zero
count as zero. -/
def roundedNat : Double → Option Nat
  | .nan => some 0
  | .infinite negative => if negative then some 0 else none
  | .finite negative mantissa exponent _ =>
    if negative then some 0
    else if exponent < 0 then
      let den := twoTo (-exponent).toNat
      some ((2 * mantissa + den) / (2 * den))
    else some (mantissa * twoTo exponent.toNat)

/-- The number that a text denotes: a word for yes or no, or digits with an optional plus sign. -/
def textNat? (s : String) : Option Nat :=
  let word := String.ofList (s.toList.map Char.toLower)
  if ["true", "on", "yes"].contains word then some 1
  else if ["false", "off", "no"].contains word then some 0
  else
    let ds := match s.toList with
      | '+' :: r => r
      | cs => cs
    if ds.isEmpty || !ds.all Char.isDigit then none
    else some (ds.foldl (fun n d => n * 10 + (d.toNat - '0'.toNat)) 0)

/-- The number of at least zero that a value denotes. -/
def nat? : Setting → Option Nat
  | bool b => some (if b then 1 else 0)
  | int n => if n < 0 then none else some n.toNat
  | float x => roundedNat x
  | text s => textNat? s
  | nothing => none
  | array _ => none
  | table _ => none

/-- The level of logging that a value denotes. -/
def level? (s : Setting) : Option LogLevel := s.nat?.bind LogLevel.ofNat?

/-- The text that a value denotes, where nothing may be said as well. -/
def optionalText? : Setting → Option (Option String)
  | nothing => some none
  | s => s.text?.map some

/-- The options of a group with their values, given the names of its options in their order. -/
def options? (names : List String) : Setting → Option (List (String × Setting))
  | table entries => if entries.all fun e => names.contains e.1 then some entries else none
  | array items => some (names.zip items)
  | _ => none

/-- What an option of a group says, or its default if it says nothing. -/
def option? {α : Type} (options : List (String × Setting)) (name : String) (default : α)
    (read : Setting → Option α) : Option α :=
  match options.lookup name with
  | some s => read s
  | none => some default

end Setting

namespace Settings

open Setting (option? options?)

/-- The options of the store that a value denotes. -/
def store? (s : Setting) : Option StoreSettings := do
  let o ← options? ["path"] s
  return ⟨← option? o "path" standard.store.path Setting.optionalText?⟩

/-- The options of export and import that a value denotes. -/
def transfer? (s : Setting) : Option ExportSettings := do
  let o ← options? ["outdir", "extension"] s
  let outdir ← option? o "outdir" standard.transfer.outdir Setting.text?
  let extension ← option? o "extension" standard.transfer.extension Setting.text?
  return ⟨outdir, extension⟩

/-- The options of the editor that a value denotes. -/
def editor? (s : Setting) : Option EditorSettings := do
  let o ← options? ["command"] s
  return ⟨← option? o "command" standard.editor.command Setting.optionalText?⟩

/-- The options of logging that a value denotes. -/
def log? (s : Setting) : Option LogSettings := do
  let o ← options? ["level", "file_level", "file"] s
  let level ← option? o "level" standard.log.level Setting.level?
  let fileLevel ← option? o "file_level" standard.log.fileLevel Setting.level?
  let file ← option? o "file" standard.log.file Setting.optionalText?
  return ⟨level, fileLevel, file⟩

/-- The settings that a table of values denotes. -/
def ofSetting? (s : Setting) : Option Settings := do
  let o ← options? ["store", "export", "editor", "log"] s
  let store ← option? o "store" standard.store store?
  let transfer ← option? o "export" standard.transfer transfer?
  let editor ← option? o "editor" standard.editor editor?
  let log ← option? o "log" standard.log log?
  return ⟨store, transfer, editor, log⟩

end Settings

end EnvProfiles
