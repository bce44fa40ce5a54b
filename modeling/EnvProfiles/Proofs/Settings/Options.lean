import EnvProfiles.Dict
import EnvProfiles.Settings.Decode
import EnvProfiles.Settings.KeyPath

/-!
# Options of the Settings

The seven options that can be set, each under a name in a group, and how an
option gets from the table of values into the settings: what stands under its
name is read in the way of the option, and if nothing stands there, it keeps its
default.

What does not show in the settings is the order in which a table holds its
keys. All that counts is what stands under which name of which group.

## Main definitions

* `SettingKey`: One of the options.
* `SettingKey.read`: What a value says for an option.
* `Setting.said`: What stands under a name in a group.
* `Setting.Sectioned`: Every group is a table.
* `SettingKey.valueOf`: What an option is, by what is said of it.
* `Setting.outline`, `Setting.view`: A value up to the order of its keys.

## Theorems

* `Settings.get_of_ofSetting?`: What the settings hold for each option.
* `Settings.ofSetting?_congr`: The order of keys does not show.
-/

namespace EnvProfiles

/-- An option of the settings. -/
inductive SettingKey where
  | storePath
  | outdir
  | extension
  | editorCommand
  | logLevel
  | logFileLevel
  | logFile
deriving DecidableEq, Repr

namespace SettingKey

/-- The group that an option is in. -/
def group : SettingKey → String
  | storePath => "store"
  | outdir => "export"
  | extension => "export"
  | editorCommand => "editor"
  | logLevel => "log"
  | logFileLevel => "log"
  | logFile => "log"

/-- The name of an option within its group. -/
def name : SettingKey → String
  | storePath => "path"
  | outdir => "outdir"
  | extension => "extension"
  | editorCommand => "command"
  | logLevel => "level"
  | logFileLevel => "file_level"
  | logFile => "file"

/-- The key of an option. -/
def text (k : SettingKey) : String := k.group ++ "." ++ k.name

/-- The path that the key of an option denotes. -/
def path (k : SettingKey) : KeyPath := ⟨k.group, [.key k.name]⟩

/-- What an option can be. -/
def Value : SettingKey → Type
  | storePath => Option String
  | outdir => String
  | extension => String
  | editorCommand => Option String
  | logLevel => LogLevel
  | logFileLevel => LogLevel
  | logFile => Option String

/-- What a value says for an option. -/
def read : (k : SettingKey) → Setting → Option k.Value
  | storePath => Setting.optionalText?
  | outdir => Setting.text?
  | extension => Setting.text?
  | editorCommand => Setting.optionalText?
  | logLevel => Setting.level?
  | logFileLevel => Setting.level?
  | logFile => Setting.optionalText?

/-- All options. -/
def all : List SettingKey :=
  [storePath, outdir, extension, editorCommand, logLevel, logFileLevel, logFile]

theorem mem_all (k : SettingKey) : k ∈ all := by
  cases k <;> decide

instance {p : SettingKey → Prop} [DecidablePred p] : Decidable (∀ k, p k) :=
  decidable_of_iff (∀ k ∈ all, p k) ⟨fun h k => h k k.mem_all, fun h k _ => h k⟩

instance {p : SettingKey → Prop} [DecidablePred p] : Decidable (∃ k, p k) :=
  decidable_of_iff (∃ k ∈ all, p k) ⟨fun ⟨k, _, h⟩ => ⟨k, h⟩, fun ⟨k, h⟩ => ⟨k, k.mem_all, h⟩⟩

theorem ofText?_text (k : SettingKey) : KeyPath.ofText? k.text = some k.path := by
  cases k <;> decide +kernel

theorem text_injective {k k' : SettingKey} (h : k.text = k'.text) : k = k' := by
  revert h
  cases k <;> cases k' <;> decide

theorem text_inj {k k' : SettingKey} : k.text = k'.text ↔ k = k' :=
  ⟨text_injective, fun h => h ▸ rfl⟩

theorem eq_of_names {k k' : SettingKey} (hgroup : k.group = k'.group) (hname : k.name = k'.name) :
    k = k' :=
  text_injective (by rw [text, text, hgroup, hname])

theorem path_injective {k k' : SettingKey} (h : k.path = k'.path) : k = k' := by
  obtain ⟨hgroup, hname⟩ := KeyPath.mk.inj h
  exact eq_of_names hgroup (KeyStep.key.inj (List.cons.inj hname).1)

end SettingKey

/-- What the settings hold for an option. -/
def Settings.get (s : Settings) : (k : SettingKey) → k.Value
  | .storePath => s.store.path
  | .outdir => s.transfer.outdir
  | .extension => s.transfer.extension
  | .editorCommand => s.editor.command
  | .logLevel => s.log.level
  | .logFileLevel => s.log.fileLevel
  | .logFile => s.log.file

/-- What an option is if a value is said for it, and if none is. -/
def SettingKey.valueOf (k : SettingKey) : Option Setting → Option k.Value
  | some value => k.read value
  | none => some (Settings.standard.get k)

namespace Setting

/-- What stands under a name in a group. -/
def said (root : Setting) (group name : String) : Option Setting :=
  (root.under group).entriesOf.lookup name

/-- A value is a table. -/
def IsTable (s : Setting) : Prop := ∃ entries, s = table entries

instance : ∀ s : Setting, Decidable s.IsTable
  | table entries => .isTrue ⟨entries, rfl⟩
  | nothing => .isFalse nofun
  | bool _ => .isFalse nofun
  | int _ => .isFalse nofun
  | float _ => .isFalse nofun
  | text _ => .isFalse nofun
  | array _ => .isFalse nofun

/-- A table in which every group of options is a table, if there is anything under its name. -/
def Sectioned : Setting → Prop
  | table entries => ∀ (k : SettingKey) (group : Setting), entries.lookup k.group = some group →
    group.IsTable
  | _ => False

/-- What an option says is what is said of it, or its default. -/
theorem option?_eq {α : Type} (options : List (String × Setting)) (name : String) (default : α)
    (read : Setting → Option α) :
    option? options name default read = match options.lookup name with
      | some value => read value
      | none => some default := rfl

theorem options?_table {names : List String} {entries options : List (String × Setting)}
    (h : options? names (table entries) = some options) : options = entries := by
  unfold options? at h
  split at h
  next heq =>
    split at h
    next => rw [← Option.some.inj h, Setting.table.inj heq]
    next => exact nomatch h
  next heq => exact nomatch heq
  next hne _ => exact absurd rfl (hne entries)

end Setting

namespace Settings

open Setting

variable {entries : List (String × Setting)} {settings : Settings}

/-- The options of a table are read from its entries, whatever is made of them. -/
theorem read_of_table {γ : Type} {names : List String} {read : List (String × Setting) → Option γ}
    {g : γ} (h : (options? names (table entries)).bind read = some g) : read entries = some g := by
  obtain ⟨options, hoptions, hread⟩ := Option.bind_eq_some_iff.mp h
  rwa [options?_table hoptions] at hread

theorem transfer?_table {g : ExportSettings} (h : transfer? (table entries) = some g) :
    option? entries "outdir" standard.transfer.outdir Setting.text? = some g.outdir ∧
      option? entries "extension" standard.transfer.extension Setting.text? =
        some g.extension := by
  have hread := read_of_table h
  simp only [Option.bind_eq_bind, Option.bind_eq_some_iff, Option.pure_def] at hread
  obtain ⟨outdir, houtdir, extension, hextension, hg⟩ := hread
  rw [houtdir, hextension, ← Option.some.inj hg]
  exact ⟨rfl, rfl⟩

theorem log?_table {g : LogSettings} (h : log? (table entries) = some g) :
    option? entries "level" standard.log.level Setting.level? = some g.level ∧
      option? entries "file_level" standard.log.fileLevel Setting.level? = some g.fileLevel ∧
      option? entries "file" standard.log.file Setting.optionalText? = some g.file := by
  have hread := read_of_table h
  simp only [Option.bind_eq_bind, Option.bind_eq_some_iff, Option.pure_def] at hread
  obtain ⟨level, hlevel, fileLevel, hfileLevel, file, hfile, hg⟩ := hread
  rw [hlevel, hfileLevel, hfile, ← Option.some.inj hg]
  exact ⟨rfl, rfl, rfl⟩

/-- What a group holds for an option is what is said under the name of the option, in a group that
is a table if it is there. -/
theorem valueOf_said {γ : Type} (k : SettingKey) (get : γ → k.Value) {decode : Setting → Option γ}
    {default g : γ} (hs : Sectioned (table entries))
    (h : option? entries k.group default decode = some g) (hdefault : get default = standard.get k)
    (hdecode : ∀ options, decode (table options) = some g →
      option? options k.name (get default) k.read = some (get g)) :
    k.valueOf ((table entries).said k.group k.name) = some (get g) := by
  rw [option?_eq] at h
  rw [said, under]
  -- Without the group nothing is said of its options, and the group has its default as a whole.
  cases hgroup : entries.lookup k.group with
  | none =>
      rw [hgroup] at h
      rw [entriesOf, hgroup, ← Option.some.inj h, hdefault]
      rfl
  | some group =>
      rw [hgroup] at h
      -- A group that is there is a table, so it was read from its entries.
      obtain ⟨options, rfl⟩ := hs k group hgroup
      have hoption := hdecode options h
      rw [option?_eq, hdefault] at hoption
      rw [entriesOf, hgroup]
      exact hoption

/-- What the settings hold for an option is what is said under its name, or else its default. -/
theorem get_of_ofSetting? {root : Setting} (hs : root.Sectioned)
    (h : ofSetting? root = some settings) (k : SettingKey) :
    k.valueOf (root.said k.group k.name) = some (settings.get k) := by
  cases root with
  | table entries =>
      simp only [ofSetting?, Option.bind_eq_bind, Option.bind_eq_some_iff, Option.pure_def] at h
      obtain ⟨options, hoptions, store, hstore, transfer, htransfer, editor, heditor, log, hlog,
        hall⟩ := h
      rw [options?_table hoptions] at hstore htransfer heditor hlog
      obtain rfl := Option.some.inj hall
      -- Each option comes with its group, and the group from what was read for it.
      cases k with
      | storePath =>
          refine valueOf_said .storePath StoreSettings.path hs hstore rfl fun _ h => ?_
          obtain ⟨path, hpath, hg⟩ := Option.bind_eq_some_iff.mp (read_of_table h)
          exact Option.some.inj hg ▸ hpath
      | outdir =>
          exact valueOf_said .outdir ExportSettings.outdir hs htransfer rfl
            fun _ h => (transfer?_table h).1
      | extension =>
          exact valueOf_said .extension ExportSettings.extension hs htransfer rfl
            fun _ h => (transfer?_table h).2
      | editorCommand =>
          refine valueOf_said .editorCommand EditorSettings.command hs heditor rfl fun _ h => ?_
          obtain ⟨command, hcommand, hg⟩ := Option.bind_eq_some_iff.mp (read_of_table h)
          exact Option.some.inj hg ▸ hcommand
      | logLevel =>
          exact valueOf_said .logLevel LogSettings.level hs hlog rfl fun _ h => (log?_table h).1
      | logFileLevel =>
          exact valueOf_said .logFileLevel LogSettings.fileLevel hs hlog rfl
            fun _ h => (log?_table h).2.1
      | logFile =>
          exact valueOf_said .logFile LogSettings.file hs hlog rfl fun _ h => (log?_table h).2.2
  | _ => exact hs.elim

end Settings

/-! ### The order of keys -/

/-- A value up to the order of its keys. -/
inductive Outline where
  | single (value : Setting)
  | table (said : String → Option Setting)

namespace Setting

/-- A value up to the order of its keys. -/
def outline : Setting → Outline
  | table entries => .table fun key => entries.lookup key
  | value => .single value

/-- The groups of a table, each up to the order of its keys. -/
def view (root : Setting) (group : String) : Option Outline :=
  (root.entriesOf.lookup group).map outline

variable {s t : Setting} {names : List String} {entries entries' : List (String × Setting)}

theorem table_or_eq_of_outline (h : s.outline = t.outline) : s = t ∨
    ∃ entries entries', s = table entries ∧ t = table entries' ∧
      ∀ key, entries.lookup key = entries'.lookup key := by
  cases s with
  | table entries =>
      cases t with
      | table entries' => exact .inr ⟨entries, entries', rfl, rfl, congrFun (Outline.table.inj h)⟩
      | _ => exact nomatch h
  | _ =>
      cases t with
      | table entries' => exact nomatch h
      | _ => exact .inl (Outline.single.inj h)

/-- Whether a group has options only that exist is a matter of what can be found in it. -/
theorem all_contains_iff : (entries.all fun e => names.contains e.1) = true ↔
    ∀ key, entries.lookup key ≠ none → key ∈ names := by
  rw [List.all_eq_true]
  constructor
  · intro h key hkey
    obtain ⟨value, hvalue⟩ := Option.ne_none_iff_exists'.mp hkey
    exact List.contains_iff_mem.mp (h (key, value) (Dict.mem_of_lookup hvalue))
  · intro h e he
    rw [List.contains_iff_mem]
    refine h e.1 fun hc => ?_
    exact bne_iff_ne.mp (List.lookup_eq_none_iff.mp hc e he) rfl

theorem options?_congr (h : s.outline = t.outline) :
    options? names s = none ∧ options? names t = none ∨
      ∃ options options', options? names s = some options ∧ options? names t = some options' ∧
        ∀ key, options.lookup key = options'.lookup key := by
  rcases table_or_eq_of_outline h with rfl | ⟨entries, entries', rfl, rfl, hlookup⟩
  · cases hs : options? names s with
    | none => exact .inl ⟨rfl, rfl⟩
    | some options => exact .inr ⟨options, options, rfl, rfl, fun _ => rfl⟩
  · -- A key that does not exist is found in both tables or in none.
    have hall : (entries.all fun e => names.contains e.1) =
        entries'.all fun e => names.contains e.1 := by
      rw [Bool.eq_iff_iff, all_contains_iff, all_contains_iff]
      simp only [hlookup]
    rw [options?, options?, hall]
    split
    · exact .inr ⟨entries, entries', rfl, rfl, hlookup⟩
    · exact .inl ⟨rfl, rfl⟩

/-- What a group of options comes to does not depend on the order of its keys, if it is made of what
is found in the group. -/
theorem option?_congr {γ : Type} {read : List (String × Setting) → Option γ} {group : String}
    (default : γ)
    (hgroup : (entries.lookup group).map outline = (entries'.lookup group).map outline)
    (hread : ∀ {options options'}, (∀ key, options.lookup key = options'.lookup key) →
      read options = read options') :
    option? entries group default (fun s => (options? names s).bind read) =
      option? entries' group default fun s => (options? names s).bind read := by
  rw [option?_eq, option?_eq]
  cases hs : entries.lookup group with
  | none =>
      cases ht : entries'.lookup group with
      | none => rfl
      | some t => rw [hs, ht] at hgroup; exact nomatch hgroup
  | some s =>
      cases ht : entries'.lookup group with
      | none => rw [hs, ht] at hgroup; exact nomatch hgroup
      | some t =>
          rw [hs, ht] at hgroup
          dsimp only
          rcases options?_congr (Option.some.inj hgroup) with ⟨hs, ht⟩ | ⟨_, _, hs, ht, hlookup⟩
          · rw [hs, ht]
          · rw [hs, ht]
            exact hread hlookup

end Setting

namespace Settings

open Setting

variable {entries entries' : List (String × Setting)}

/-- What a table comes to does not depend on the order of its keys, nor of those of its groups. -/
theorem ofSetting?_congr (h : (table entries).view = (table entries').view) :
    ofSetting? (table entries) = ofSetting? (table entries') := by
  have hgroups : ∀ group,
      (entries.lookup group).map outline = (entries'.lookup group).map outline := congrFun h
  have hall : ∀ names : List String, (entries.all fun e => names.contains e.1) =
      entries'.all fun e => names.contains e.1 := by
    intro names
    rw [Bool.eq_iff_iff, all_contains_iff, all_contains_iff]
    -- Both tables have the same groups, so both have a group that does not exist or neither has.
    refine forall_congr' fun group => imp_congr_left (not_congr ?_)
    rw [← Option.map_eq_none_iff, hgroups group, Option.map_eq_none_iff]
  rw [ofSetting?, ofSetting?, options?, options?, hall]
  split
  · have hstore : option? entries "store" standard.store store? =
        option? entries' "store" _ store? :=
      option?_congr standard.store (hgroups "store") fun hfound => by
        simp only [option?_eq, hfound]
    have htransfer : option? entries "export" standard.transfer transfer? =
        option? entries' "export" _ transfer? :=
      option?_congr standard.transfer (hgroups "export") fun hfound => by
        simp only [option?_eq, hfound]
    have heditor : option? entries "editor" standard.editor editor? =
        option? entries' "editor" _ editor? :=
      option?_congr standard.editor (hgroups "editor") fun hfound => by
        simp only [option?_eq, hfound]
    have hlog : option? entries "log" standard.log log? = option? entries' "log" _ log? :=
      option?_congr standard.log (hgroups "log") fun hfound => by
        simp only [option?_eq, hfound]
    simp only [Option.bind_eq_bind, Option.bind_some, hstore, htransfer, heditor, hlog]
  · rfl

end Settings

end EnvProfiles
