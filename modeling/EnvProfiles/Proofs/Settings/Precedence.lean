import EnvProfiles.Program
import EnvProfiles.Proofs.Settings.Calls
import EnvProfiles.Proofs.Settings.Tables
import EnvProfiles.Proofs.Settings.VariableNames

/-!
# Precedence

Settings are put together option by option, from sources of different rank. What
is set outright comes first, then the environment, then the files and texts,
where later ones precede earlier ones, and an option of which nobody says
anything has its default. A source that says nothing of an option leaves it to
those below, even if it says something of other options in the same group.

The program adds the user's own file and then the file that the command line
names, takes the environment, and sets outright what the command line says. So
the command line precedes the environment, that precedes the named file, and
that the user's own.

## Main definitions

* `LoaderCall.said`: What is said of an option in a sequence of calls.
* `LoaderCall.Plain`: Groups are tables, and variables name options.
* `Program.calls`: The calls by which the program makes its loader.
* `Program.said`: What is said of an option to the program.

## Theorems

* `LoaderCall.get_of_build`: Every option is what is said of it in the calls.
* `Program.loader_eq`: The program makes its loader by its calls.
* `Program.said_calls`: What is said in them.
* `settings_by_precedence`: The precedence of calls, and that of the program.
-/

namespace EnvProfiles

open Setting

namespace LoaderCall

/-- What is said of an option: what was set last, or else what the environment says, or else what
the last source says that says something of it. -/
def said (calls : List LoaderCall) (fs : FileSystem) (environment : Dict) (k : SettingKey) :
    Option Setting :=
  (lastSet calls k).or
    (((lastStart calls).bind fun start => Loader.environmentSays? start environment k).or
      ((sources calls).reverse.findSome? (Source.says? fs k)))

/-- Every source that can be read gives groups as tables only, and every variable that belongs to
the settings names one option, no two of them the same. -/
structure Plain (calls : List LoaderCall) (fs : FileSystem) (environment : Dict) : Prop where
  sections : ∀ source ∈ sources calls, source.Sectional fs
  names : ∀ start, lastStart calls = some start → Loader.NamesOptions start environment

instance (calls : List LoaderCall) (fs : FileSystem) (environment : Dict) :
    Decidable (Plain calls fs environment) :=
  decidable_of_iff
    ((∀ source ∈ sources calls, source.Sectional fs) ∧
      ∀ start ∈ lastStart calls, Loader.NamesOptions start environment)
    ⟨fun h => ⟨h.1, h.2⟩, fun h => ⟨h.sections, h.names⟩⟩

variable {calls : List LoaderCall} {fs : FileSystem} {environment : Dict} {l : Loader}

/-- What is said of an option before options were set. -/
theorem Traced.said_of_underlying? {root : Setting} (h : Traced calls l)
    (hplain : Plain calls fs environment) (hroot : l.underlying? fs environment = some root) :
    root.Sectioned ∧ ∀ k : SettingKey, SameSaid (root.said k.group k.name)
      (((lastStart calls).bind fun start => Loader.environmentSays? start environment k).or
        ((sources calls).reverse.findSome? (Source.says? fs k))) := by
  obtain ⟨files, hfiles, rfl⟩ := Option.map_eq_some_iff.mp hroot
  rw [h.sources_eq] at hfiles
  obtain ⟨hs, hsources⟩ :=
    Loader.said_assignSources hfiles Loader.sectioned_empty hplain.sections
  simp only [Loader.said_empty, Option.or_none] at hsources
  rw [h.start_eq]
  cases hstart : lastStart calls with
  | none => exact ⟨hs, hsources⟩
  | some start =>
      -- Variables are laid over what the sources came to.
      obtain ⟨hs', hvariables⟩ := Loader.said_assignVariables (hplain.names start hstart) hs
      exact ⟨hs', fun k => (hvariables k).trans ((hsources k).or _)⟩

/-- What is said of an option in the end. -/
theorem Traced.said_of_values? {root : Setting} (h : Traced calls l)
    (hplain : Plain calls fs environment) (hroot : l.values? fs environment = some root) :
    root.Sectioned ∧
      ∀ k : SettingKey, SameSaid (root.said k.group k.name) (said calls fs environment k) := by
  obtain ⟨sets, hlists, hoverrides⟩ := h.sets
  rw [Loader.values?_eq hoverrides] at hroot
  obtain ⟨before, hbefore, rfl⟩ := Option.map_eq_some_iff.mp hroot
  obtain ⟨hs, hsaid⟩ := h.said_of_underlying? hplain hbefore
  obtain ⟨hs', hsets⟩ := Loader.said_assignSets hs sets
  refine ⟨hs', fun k => (hsets k).trans ?_⟩
  -- What was set outright is laid last, in whatever order it was set.
  rw [hlists.findSome?_eq]
  exact (hsaid k).or _

/-- Every option is what is said of it. -/
theorem get_of_build {settings : Settings} (hplain : Plain calls fs environment)
    (h : build calls fs environment = .ok settings) (k : SettingKey) :
    k.valueOf (said calls fs environment k) = some (settings.get k) := by
  obtain ⟨l, hl, htraced⟩ := loader_traced calls
  rw [build, hl] at h
  have hload : l.load fs environment = .ok settings := h
  rw [Loader.load] at hload
  split at hload
  next settings' hvalues =>
    obtain rfl := Except.ok.inj hload
    obtain ⟨root, hroot, hsettings⟩ := Option.bind_eq_some_iff.mp hvalues
    obtain ⟨hs, hsaid⟩ := htraced.said_of_values? hplain hroot
    -- The value is known only up to what no option can tell apart, which is enough for its option.
    rw [← (hsaid k).valueOf_eq k]
    exact Settings.get_of_ofSetting? hs hsettings k
  next => cases hload

end LoaderCall

/-! ### The program -/

namespace Cli

theorem pathOf_eq_ok {m : Matches} {environment : Dict} {path : Option String}
    (h : pathOf m environment = .ok path) :
    path = (m.value? "path").or (environment.get? pathVariable) := by
  unfold pathOf at h
  split at h
  next given hgiven =>
    rw [hgiven, ← Except.ok.inj h]
    rfl
  next hgiven =>
    rw [hgiven, Option.none_or]
    split at h
    next told htold =>
      rw [htold]
      cases hcheck : Check.path.run told with
      | error fault => rw [hcheck] at h; cases h
      | ok _ => rw [hcheck] at h; exact (Except.ok.inj h).symm
    next htold => rw [htold, ← Except.ok.inj h]

/-- What the options are that hold for every command. -/
theorem optionsOf_eq_ok {m : Matches} {environment : Dict} {options : GlobalOptions}
    (h : optionsOf m environment = .ok options) :
    options = ⟨(m.value? "path").or (environment.get? pathVariable), m.value? "config",
      (m.value? "log-level").bind level?, (m.value? "file-log-level").bind level?,
      m.value? "log-file"⟩ := by
  unfold optionsOf at h
  cases hpath : pathOf m environment with
  | error fault => rw [hpath] at h; exact nomatch h
  | ok path =>
      rw [hpath] at h
      rw [← Except.ok.inj h, pathOf_eq_ok hpath]

end Cli

namespace Program

open LoaderCall

/-- The call that sets an option to a text, if there is one. -/
def setting (k : SettingKey) (value : Option String) : List LoaderCall :=
  (value.map fun text => .set k (.text text)).toList

/-- The calls that set options as the command line says. -/
def settingCalls (options : Cli.GlobalOptions) : List LoaderCall :=
  setting .storePath options.path ++
    setting .logLevel (options.logLevel.map toString) ++
    setting .logFileLevel ((options.fileLogLevel.or options.logLevel).map toString) ++
    setting .logFile options.logFile

/-- The calls by which the program makes its loader. -/
def calls (options : Cli.GlobalOptions) (home : String) : List LoaderCall :=
  [.add (.optional (Settings.userFile home))] ++
    (options.settingsFile.map fun path => .add (.file path)).toList ++
    [.withVariables variableStart] ++ settingCalls options

/-- What the command line says of an option. The path of the database may be given in a variable
of its own as well, and the level of the console holds for the file, too, unless that has a level
of its own. -/
def commandLine (m : Cli.Matches) (environment : Dict) : SettingKey → Option String
  | .storePath => (m.value? "path").or (environment.get? Cli.pathVariable)
  | .logLevel => (level "log-level").map toString
  | .logFileLevel => ((level "file-log-level").or (level "log-level")).map toString
  | .logFile => m.value? "log-file"
  | _ => none
where
  level (name : String) : Option Nat := (m.value? name).bind Cli.level?

/-- What is said of an option to the program: on the command line, or else in the environment, or
else in the file that the command line names, or else in the user's own file. -/
def said (m : Cli.Matches) (fs : FileSystem) (environment : Dict) (k : SettingKey) :
    Option Setting :=
  ((commandLine m environment k).map .text).or
    ((Loader.environmentSays? variableStart environment k).or
      (((m.value? "config").bind fun path => Source.says? fs k (.file path)).or
        (Source.says? fs k (.optional (Settings.userFile (homeDirectory environment))))))

/-! Its calls -/

theorem foldlM_setting (k : SettingKey) (value : Option String) (l : Loader) :
    (value.map fun text => (k.text, text)).toList.foldlM (fun l o => l.set? o.1 (.text o.2)) l =
      (setting k value).foldlM LoaderCall.run l := by
  cases value <;> rfl

theorem foldlM_overrides (options : Cli.GlobalOptions) (l : Loader) :
    options.overrides.foldlM (fun l o => l.set? o.1 (.text o.2)) l =
      (settingCalls options).foldlM LoaderCall.run l := by
  have htexts : "store.path" = SettingKey.text .storePath ∧
      "log.level" = SettingKey.text .logLevel ∧
      "log.file_level" = SettingKey.text .logFileLevel ∧ "log.file" = SettingKey.text .logFile := by
    decide
  -- Levels are written as texts when they are set.
  have hlevel : ∀ (k : SettingKey) (level : Option Nat),
      (level.map fun l => (k.text, toString l)) =
        (level.map toString).map fun text => (k.text, text) :=
    fun k level => (Option.map_map ..).symm
  obtain ⟨hpath, hlog, hfileLevel, hfile⟩ := htexts
  simp only [Cli.GlobalOptions.overrides, settingCalls, List.foldlM_append, hpath, hlog, hfileLevel,
    hfile, hlevel, foldlM_setting]

/-- The program makes its loader by these calls. -/
theorem loader_eq (options : Cli.GlobalOptions) (home : String) :
    Program.loader options home = LoaderCall.loader (calls options home) := by
  rw [Program.loader, foldlM_overrides, LoaderCall.loader, calls]
  cases options.settingsFile <;> rfl

theorem lastSet_setting (k k' : SettingKey) (value : Option String) :
    lastSet (setting k value) k' = if k = k' then value.map .text else none := by
  cases value with
  | none => exact (ite_self none).symm
  | some text => exact lastSet_set k k' (.text text)

/-- What the program sets is what the command line says. -/
theorem lastSet_settingCalls {m : Cli.Matches} {environment : Dict} {options : Cli.GlobalOptions}
    (h : Cli.optionsOf m environment = .ok options) (k : SettingKey) :
    lastSet (settingCalls options) k = (commandLine m environment k).map .text := by
  rw [Cli.optionsOf_eq_ok h]
  simp only [settingCalls, lastSet_append, lastSet_setting]
  -- Each option is set in one place at most.
  cases k <;> simp only [reduceCtorEq, if_true, if_false, Option.or_none, Option.none_or,
    commandLine, commandLine.level, Option.map_none]

theorem lastStart_setting (k : SettingKey) (value : Option String) :
    lastStart (setting k value) = none := by
  cases value <;> rfl

theorem sources_setting (k : SettingKey) (value : Option String) :
    sources (setting k value) = [] := by
  cases value <;> rfl

theorem lastSet_calls (options : Cli.GlobalOptions) (home : String) (k : SettingKey) :
    lastSet (calls options home) k = lastSet (settingCalls options) k := by
  rw [calls, lastSet_append, lastSet_append, lastSet_append]
  cases options.settingsFile <;> exact Option.or_none

theorem lastStart_calls (options : Cli.GlobalOptions) (home : String) :
    lastStart (calls options home) = some variableStart := by
  simp only [calls, settingCalls, lastStart_append, lastStart_setting, Option.none_or]
  rfl

theorem sources_calls (options : Cli.GlobalOptions) (home : String) :
    sources (calls options home) = .optional (Settings.userFile home) ::
      (options.settingsFile.map .file).toList := by
  simp only [calls, settingCalls, sources_append, sources_setting, List.append_nil]
  cases options.settingsFile <;> rfl

/-- What is said of an option in the calls of the program. -/
theorem said_calls {m : Cli.Matches} {environment : Dict} {options : Cli.GlobalOptions}
    (h : Cli.optionsOf m environment = .ok options) (fs : FileSystem) (k : SettingKey) :
    LoaderCall.said (calls options (homeDirectory environment)) fs environment k =
      said m fs environment k := by
  have hfile : options.settingsFile = m.value? "config" := by rw [Cli.optionsOf_eq_ok h]
  -- Sources are searched from the back, where the file that is named comes before the own one.
  rw [LoaderCall.said, said, lastSet_calls, lastSet_settingCalls h, lastStart_calls, sources_calls,
    hfile, Option.bind_some, List.reverse_cons, List.findSome?_append, List.findSome?_singleton]
  cases m.value? "config" with
  | none => rfl
  | some path => rw [Option.map_some, Option.toList_some, List.reverse_singleton,
      List.findSome?_singleton, Option.bind_some]

/-- The settings of the program are built by its calls. -/
theorem build_calls {options : Cli.GlobalOptions} {environment : Dict} {fs : FileSystem}
    {settings : Settings} {listing : List String}
    (h : loadSettings options environment fs = .ok (settings, listing)) :
    build (calls options (homeDirectory environment)) fs environment = .ok settings := by
  obtain ⟨l, hl, -⟩ := loader_traced (calls options (homeDirectory environment))
  rw [loadSettings, loader_eq, hl] at h
  rw [build, hl]
  change l.load fs environment = .ok settings
  cases hload : l.load fs environment with
  | error fault =>
      simp only [bind, Except.bind, hload] at h
      cases h
  | ok settings' =>
      simp only [bind, Except.bind, hload] at h
      rw [(Prod.mk.inj (Except.ok.inj h)).1]

/-- Every option of the program is what is said of it. -/
theorem get_of_loadSettings {m : Cli.Matches} {environment : Dict} {options : Cli.GlobalOptions}
    {fs : FileSystem} {settings : Settings} {listing : List String}
    (hoptions : Cli.optionsOf m environment = .ok options)
    (hplain : Plain (calls options (homeDirectory environment)) fs environment)
    (h : loadSettings options environment fs = .ok (settings, listing)) (k : SettingKey) :
    k.valueOf (said m fs environment k) = some (settings.get k) := by
  rw [← said_calls hoptions]
  exact get_of_build hplain (build_calls h) k

end Program

/-! ### Option by option -/

open LoaderCall in
/-- Settings are put together option by option. If they can be built, each option is what was set
for it last, or else what the environment says of it under the start that was given last, or else
what the last source says that says something of it, or else its default. Where a start was given
and where options were set among the other calls makes no difference. What the environment says of
an option is the value of its variable, and what a source says of it is what stands in its table.
For the program this means: the command line, then the environment, then the file that the command
line names, then the user's own file. -/
theorem settings_by_precedence (fs : FileSystem) (environment : Dict) :
    (∀ calls settings, Plain calls fs environment → build calls fs environment = .ok settings →
      ∀ k : SettingKey, k.valueOf (said calls fs environment k) = some (settings.get k)) ∧
    (∀ calls calls' : List LoaderCall, sources calls = sources calls' →
      lastStart calls = lastStart calls' → (∀ k, lastSet calls k = lastSet calls' k) →
      build calls fs environment = build calls' fs environment) ∧
    (∀ start, Loader.NamesOptions start environment → ∀ (k : SettingKey) (value : String),
      environment.get? (start ++ "__" ++ k.variableName) = some value →
      Loader.environmentSays? start environment k = some (Loader.variableValue value)) ∧
    (∀ (source : Source) (entries : TomlTable), source.table? fs = some entries →
      TomlTable.Distinct entries → Loader.SectionalTable entries → ∀ k : SettingKey,
      SameSaid (source.says? fs k) ((TomlTable.option? entries k.group k.name).map .ofToml)) ∧
    ∀ (m : Cli.Matches) (options : Cli.GlobalOptions) (settings : Settings) (listing : List String),
      Cli.optionsOf m environment = .ok options →
      Plain (Program.calls options (homeDirectory environment)) fs environment →
      Program.loadSettings options environment fs = .ok (settings, listing) →
      ∀ k : SettingKey, k.valueOf (Program.said m fs environment k) = some (settings.get k) :=
  ⟨fun _ _ hplain h => get_of_build hplain h,
    fun _ _ hsources hstart hset => build_congr hsources hstart hset fs environment,
    fun _ hnames k _ hvalue => hnames.says?_eq k hvalue,
    fun _ _ htable hdistinct hsections => Source.says?_same htable hdistinct hsections,
    fun _ _ _ _ hoptions hplain h => Program.get_of_loadSettings hoptions hplain h⟩

/-- A user's own file, and one that is named on the command line. -/
def twoFiles : FileSystem :=
  .ofPlaces
    [(["work"], .directory), (["home"], .directory), (["home", ".config"], .directory),
      (["home", ".config", "denv"], .directory),
      (["home", ".config", "denv", "config.toml"],
        .text "[log]\nlevel = 1\nfile = \"own\"\n[export]\noutdir = \"own\"\n"),
      (["work", "more.toml"], .text "[export]\noutdir = \"more\"\nextension = \"more\"\n")]
    ["work"]

/-- An environment that sets an option and names a database. -/
def oneVariable : Dict :=
  .ofList [("HOME", "/home"), ("DENV_PATH", "/base"), ("DENV__EXPORT__EXTENSION", "yaml")]

/-- A command line that names the second file and a level. -/
def oneLevel : Cli.Matches := ⟨[("config", "more.toml"), ("log-level", "4")], [], []⟩

/-- The calls that come of it, with options set before anything else. -/
def setFirst : List LoaderCall :=
  [.set .logFileLevel (.text "4"), .withVariables "DENV", .set .logLevel (.text "4"),
    .set .storePath (.text "/base"), .add (.optional "/home/.config/denv/config.toml"),
    .add (.file "more.toml")]

/-- Every place that settings can come from says something here, and none says all. -/
theorem settings_by_precedence_mixed :
    let options : Cli.GlobalOptions := ⟨some "/base", some "more.toml", some 4, none, none⟩
    let settings : Settings :=
      ⟨⟨some "/base"⟩, ⟨"more", "yaml"⟩, ⟨none⟩, ⟨.debug, .debug, some "own"⟩⟩
    let listing := ["1. [optional] /home/.config/denv/config.toml", "2. [file] more.toml"]
    let calls := Program.calls options (homeDirectory oneVariable)
    (Cli.optionsOf oneLevel oneVariable = .ok options ∧
      LoaderCall.Plain calls twoFiles oneVariable ∧
      Program.loadSettings options oneVariable twoFiles = .ok (settings, listing) ∧
      ∀ k : SettingKey,
        k.valueOf (Program.said oneLevel twoFiles oneVariable k) = some (settings.get k)) ∧
    (LoaderCall.Plain setFirst twoFiles oneVariable ∧
      LoaderCall.build setFirst twoFiles oneVariable = .ok settings ∧
      LoaderCall.build setFirst twoFiles oneVariable = LoaderCall.build calls twoFiles oneVariable ∧
      ∀ k : SettingKey,
        k.valueOf (LoaderCall.said setFirst twoFiles oneVariable k) = some (settings.get k)) ∧
    Loader.environmentSays? "DENV" oneVariable .extension =
      some (Loader.variableValue "yaml") ∧
    ∃ entries, Source.table? twoFiles (.file "more.toml") = some entries ∧
      TomlTable.Distinct entries ∧ Loader.SectionalTable entries ∧
      SameSaid (Source.says? twoFiles .outdir (.file "more.toml"))
        ((TomlTable.option? entries "export" "outdir").map .ofToml) := by
  intro options settings listing calls
  obtain ⟨hbuilt, hmoved, hvariable, hsource, hprogram⟩ :=
    settings_by_precedence twoFiles oneVariable
  have hoptions : Cli.optionsOf oneLevel oneVariable = .ok options := by decide +kernel
  have hplain : LoaderCall.Plain calls twoFiles oneVariable := by decide +kernel
  have hload : Program.loadSettings options oneVariable twoFiles = .ok (settings, listing) := by
    decide +kernel
  have hsources : LoaderCall.sources setFirst = LoaderCall.sources calls := by decide +kernel
  have hstart : LoaderCall.lastStart setFirst = LoaderCall.lastStart calls := by decide
  have hfirst : LoaderCall.Plain setFirst twoFiles oneVariable :=
    ⟨hsources ▸ hplain.sections, hstart ▸ hplain.names⟩
  -- The calls come in another order, which makes no difference.
  have hcalls := hmoved setFirst calls hsources hstart fun k => by cases k <;> rfl
  have hbuild : LoaderCall.build setFirst twoFiles oneVariable = .ok settings :=
    hcalls.trans (Program.build_calls hload)
  have hnames : Loader.NamesOptions "DENV" oneVariable := hfirst.names "DENV" (by decide)
  obtain ⟨entries, htable⟩ : ∃ entries, Source.table? twoFiles (.file "more.toml") = some entries :=
    Option.isSome_iff_exists.mp (by decide +kernel)
  have hdistinct : ∀ entries ∈ Source.table? twoFiles (.file "more.toml"),
    TomlTable.Distinct entries := by decide +kernel
  have hsections := hfirst.sections (.file "more.toml") (by decide) entries htable
  exact ⟨⟨hoptions, hplain, hload,
      hprogram oneLevel options settings listing hoptions hplain hload⟩,
    ⟨hfirst, hbuild, hcalls, hbuilt setFirst settings hfirst hbuild⟩,
    hvariable "DENV" hnames .extension "yaml" (by decide +kernel),
    entries, htable, hdistinct entries htable, hsections,
    hsource _ entries htable (hdistinct entries htable) hsections .outdir⟩

end EnvProfiles
