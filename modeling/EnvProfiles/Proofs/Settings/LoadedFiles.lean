import EnvProfiles.Proofs.Files.Directories
import EnvProfiles.Proofs.Settings.Calls

/-!
# The List of Loaded Files

Whether an optional file is listed, and whether it is read, is decided by two
different questions. It is listed if there is anything at its path. It is read if
there is a regular file at its path, or else one at the path with `.toml` added to
it. The answers differ in two cases: a directory is listed although nothing is
read for it, unless a file with the ending stands beside it, and a file that is
found with the ending only is read without being listed.

Texts and files that are required are no such trouble. They are always listed, and
where one of them cannot be read nothing is loaded at all. So the list is that of
what was read exactly if no optional path is of one of the two kinds.

What was read is told here as the texts that were read. To load these texts and
nothing else comes to the same settings, which is what makes them the ones that
count.

## Main definitions

* `Source.textRead?`: The text that is read for a source.
* `Source.isListed`, `Source.label`: Whether a source is listed, and how.
* `Source.Misleading`: The list and what is read differ in an optional path.
* `Loader.numbered`: A list with numbers from one on.

## Theorems

* `Source.table?_cases`: What it means that a source can be taken.
* `Loader.assignSources_texts`: Only what was read is laid.
* `Source.misleading_iff`: When the list and what is read differ in a path.
* `LoaderCall.listing_of_build`: What the list tells of settings that were
  loaded.
* `LoaderCall.listing_untrue`: It can name a directory, and leave out a file.
-/

namespace EnvProfiles

theorem FileSystem.contains_eq (fs : FileSystem) (path : String) :
    fs.contains path = (fs.isFile path || fs.isDirectory path) := by
  unfold contains isFile isDirectory
  cases fs.find path with
  | error refusal => rfl
  | ok entry => cases entry <;> rfl

theorem FileSystem.not_isDirectory_of_isFile {fs : FileSystem} {path : String}
    (h : fs.isFile path = true) : fs.isDirectory path = false := by
  unfold isFile at h
  unfold isDirectory
  cases hfind : fs.find path with
  | error refusal => rfl
  | ok entry =>
      rw [hfind] at h
      cases entry with
      | directory => exact nomatch h
      | _ => rfl

namespace Source

/-- The text that is read for a source, if one is: its own, or that of the file that is found for
its path. -/
def textRead? (fs : FileSystem) : Source → Option String
  | text content => some content
  | file path => (fileAt? fs path).bind fun found =>
    (fs.read found).toOption.map Toml.withoutMark
  | optional path => (fileAt? fs path).bind fun found =>
    (fs.read found).toOption.map Toml.withoutMark

/-- Whether a source is listed. -/
def isListed (fs : FileSystem) : Source → Bool
  | text _ => true
  | file _ => true
  | optional path => fs.contains path

/-- How a source is listed. -/
def label : Source → String
  | text _ => "[string] <string>"
  | file path => "[file] " ++ path
  | optional path => "[optional] " ++ path

variable {fs : FileSystem} {path : String}

theorem label?_eq (fs : FileSystem) (s : Source) :
    s.label? fs = if s.isListed fs then some s.label else none := by
  cases s <;> rfl

/-- An optional file is listed otherwise than anything else. -/
theorem label_eq_optional {s : Source} (h : s.label = (optional path).label) :
    s = optional path := by
  have hlist := congrArg String.toList h
  cases s with
  | text content =>
      rw [label, label, String.toList_append] at hlist
      exact absurd (congrArg (·[1]?) hlist) (by simp)
  | file other =>
      rw [label, label, String.toList_append, String.toList_append] at hlist
      exact absurd (congrArg (·[1]?) hlist) (by simp)
  | optional other =>
      rw [label, label, String.toList_append, String.toList_append] at hlist
      rw [String.toList_inj.mp (List.append_cancel_left hlist)]

/-- The table of a file is that of the text that is read from it. -/
theorem fileTable?_eq (fs : FileSystem) (path : String) :
    fileTable? fs path = ((fs.read path).toOption.map Toml.withoutMark).bind Toml.read? := by
  unfold fileTable?
  cases fs.read path <;> rfl

/-- A source that can be taken is read, or it is an optional file that is not found. -/
theorem table?_cases {s : Source} {entries : TomlTable} (h : s.table? fs = some entries) :
    (∃ content, s.textRead? fs = some content ∧ Toml.read? content = some entries) ∨
      s.textRead? fs = none ∧ entries = [] ∧
        ∃ path, s = optional path ∧ fileAt? fs path = none := by
  have hfound : ∀ found, fileTable? fs found = some entries →
      ∃ content, (fs.read found).toOption.map Toml.withoutMark = some content ∧
        Toml.read? content = some entries := by
    intro found htable
    rw [fileTable?_eq] at htable
    exact Option.bind_eq_some_iff.mp htable
  cases s with
  | text content => exact .inl ⟨content, rfl, h⟩
  | file path =>
      -- A file that is required has to be found, or else there is no table.
      rcases hat : fileAt? fs path with _ | found
      · rw [table?, hat] at h
        exact nomatch h
      · rw [table?, hat] at h
        rw [textRead?, hat]
        exact .inl (hfound found h)
  | optional path =>
      rcases hat : fileAt? fs path with _ | found
      · rw [table?, hat] at h
        refine .inr ⟨by rw [textRead?, hat]; rfl, (Option.some.inj h).symm, path, rfl, hat⟩
      · rw [table?, hat] at h
        rw [textRead?, hat]
        exact .inl (hfound found h)

/-- A regular file is found at a path once an ending has been added to it. -/
def endedFile (fs : FileSystem) (path : String) : Bool :=
  match withEnding? path with
  | some other => fs.isFile other
  | none => false

/-- The list and what is read differ in an optional path: it leads to a directory, and nothing is
read for it, or it leads nowhere, and a file with an ending is read. -/
def Misleading (fs : FileSystem) (path : String) : Prop :=
  fs.isDirectory path = true ∧ endedFile fs path = false ∨
    fs.contains path = false ∧ endedFile fs path = true

instance : Decidable (Misleading fs path) := inferInstanceAs (Decidable (_ ∨ _))

theorem isSome_fileAt? (fs : FileSystem) (path : String) :
    (fileAt? fs path).isSome = (fs.isFile path || endedFile fs path) := by
  unfold fileAt? endedFile
  cases fs.isFile path with
  | true => rfl
  | false =>
      cases withEnding? path with
      | none => rfl
      | some other => cases hother : fs.isFile other <;> simp [hother]

theorem misleading_iff : Misleading fs path ↔ fs.contains path ≠ (fileAt? fs path).isSome := by
  rw [Misleading, isSome_fileAt?, FileSystem.contains_eq]
  -- A regular file settles both questions in the same way, and it is no directory.
  cases hfile : fs.isFile path with
  | true => simp [FileSystem.not_isDirectory_of_isFile hfile]
  | false => cases fs.isDirectory path <;> cases endedFile fs path <;> simp

end Source

namespace Loader

/-- A list with numbers from one on. -/
def numbered (labels : List String) : List String :=
  labels.mapIdx fun i label => toString (i + 1) ++ ". " ++ label

theorem numbered_inj {labels others : List String} :
    numbered labels = numbered others ↔ labels = others := by
  refine ⟨fun h => List.ext_getElem? fun i => ?_, fun h => h ▸ rfl⟩
  have hat := congrArg (·[i]?) h
  simp only [numbered, List.getElem?_mapIdx] at hat
  refine Option.map_injective (fun label other heq => ?_) hat
  have hlist := congrArg String.toList heq
  simp only [String.toList_append] at hlist
  exact String.toList_inj.mp (List.append_cancel_left hlist)

theorem listing_eq (l : Loader) (fs : FileSystem) :
    l.listing fs = numbered ((l.sources.filter (Source.isListed fs)).map Source.label) := by
  have hlabels : ∀ sources : List Source, sources.filterMap (Source.label? fs) =
      (sources.filter (Source.isListed fs)).map Source.label := by
    intro sources
    induction sources with
    | nil => rfl
    | cons s sources ih =>
        rw [List.filterMap_cons, Source.label?_eq, ih, List.filter_cons]
        by_cases hlisted : s.isListed fs = true
        · simp only [hlisted, if_true, List.map_cons]
        · simp only [hlisted, Bool.false_eq_true, if_false]
  rw [listing, numbered, hlabels]

variable {fs : FileSystem}

/-- If all sources can be taken, the ones that count are the texts that were read. -/
theorem assignSources_texts {sources : List Source} {root after : Setting}
    (h : assignSources fs sources root = some after) :
    assignSources fs ((sources.filterMap (Source.textRead? fs)).map .text) root = some after := by
  induction sources generalizing root with
  | nil => exact h
  | cons s sources ih =>
      rw [assignSources] at h
      rcases htable : s.table? fs with _ | entries
      · rw [htable] at h
        cases h
      rw [htable] at h
      rcases Source.table?_cases htable with ⟨content, hread, htoml⟩ | ⟨hread, rfl, _⟩
      · rw [List.filterMap_cons, hread, List.map_cons, assignSources, Source.table?, htoml]
        exact ih h
      · -- An optional file that is not found is laid as an empty table, which changes nothing.
        rw [List.filterMap_cons, hread]
        exact ih h

/-- What can be taken was read, unless it is an optional file that is not found. -/
theorem read_of_assignSources {sources : List Source} {root after : Setting}
    (h : assignSources fs sources root = some after) {s : Source} (hs : s ∈ sources) :
    (s.textRead? fs).isSome = true ∨
      ∃ path, s = .optional path ∧ Source.fileAt? fs path = none := by
  induction sources generalizing root with
  | nil => exact absurd hs List.not_mem_nil
  | cons first sources ih =>
      rw [assignSources] at h
      rcases htable : first.table? fs with _ | entries
      · rw [htable] at h
        cases h
      rw [htable] at h
      rcases List.mem_cons.mp hs with rfl | hs
      · -- What was laid came from a text, or from an optional file without one.
        rcases Source.table?_cases htable with ⟨content, hread, _⟩ | ⟨_, _, hmissing⟩
        · exact .inl (by rw [hread]; rfl)
        · exact .inr hmissing
      · exact ih h hs

/-- What is loaded is loaded from sources that could all be taken. -/
theorem exists_assignSources_of_load {l : Loader} {environment : Dict} {settings : Settings}
    (h : l.load fs environment = .ok settings) :
    ∃ root, assignSources fs l.sources (.table []) = some root := by
  rcases hroot : assignSources fs l.sources (.table []) with _ | root
  · rw [load, values?, hroot] at h
    cases h
  · exact ⟨root, rfl⟩

/-- To load the texts that were read comes to the same. -/
theorem load_texts {l : Loader} {environment : Dict} {settings : Settings}
    (h : l.load fs environment = .ok settings) :
    Loader.load { l with sources := (l.sources.filterMap (Source.textRead? fs)).map .text } fs
      environment = .ok settings := by
  obtain ⟨root, hroot⟩ := exists_assignSources_of_load h
  rw [load, values?, hroot] at h
  rw [load, values?, assignSources_texts hroot]
  exact h

/-- The list is that of what was read exactly if no optional path is misleading. -/
theorem listing_eq_iff {l : Loader} {root : Setting}
    (h : assignSources fs l.sources (.table []) = some root) :
    l.listing fs = numbered
        ((l.sources.filter fun s => (s.textRead? fs).isSome).map Source.label) ↔
      ∀ path, .optional path ∈ l.sources → ¬ Source.Misleading fs path := by
  have hread := fun s (hs : s ∈ l.sources) => read_of_assignSources h hs
  have hoptional : ∀ path, .optional path ∈ l.sources →
      ((Source.optional path).textRead? fs).isSome = (Source.fileAt? fs path).isSome := by
    intro path hpath
    rcases hread _ hpath with hsome | ⟨other, heq, hnone⟩
    · rcases hat : Source.fileAt? fs path with _ | found
      · rw [Source.textRead?, hat] at hsome
        exact nomatch hsome
      · exact hsome
    · obtain rfl := Source.optional.inj heq
      rw [Source.textRead?, hnone]
      rfl
  rw [listing_eq, numbered_inj]
  constructor
  · intro hsame path hpath hmisleading
    refine Source.misleading_iff.mp hmisleading ?_
    -- The path is in one list if it is in the other, and nothing else is listed like it.
    have hmem : ∀ keep : Source → Bool, keep (.optional path) = true ↔
        (Source.optional path).label ∈ (l.sources.filter keep).map Source.label := by
      intro keep
      constructor
      · intro hkeep
        exact List.mem_map_of_mem (List.mem_filter.mpr ⟨hpath, hkeep⟩)
      · intro hlabel
        obtain ⟨s, hs, heq⟩ := List.mem_map.mp hlabel
        exact Source.label_eq_optional heq ▸ (List.mem_filter.mp hs).2
    have hlisted := hmem (Source.isListed fs)
    rw [hsame, ← hmem] at hlisted
    rw [← hoptional path hpath]
    exact Bool.eq_iff_iff.mpr hlisted
  · intro hall
    -- A text and a required file are in both lists.
    refine congrArg (List.map Source.label) (List.filter_congr fun s hs => ?_)
    cases s with
    | text content => rfl
    | file path =>
        rcases hread _ hs with hsome | ⟨_, heq, _⟩
        · exact hsome.symm
        · exact nomatch heq
    | optional path =>
        rw [hoptional path hs]
        exact not_not.mp fun hne => hall path hs (Source.misleading_iff.mpr hne)

end Loader

namespace LoaderCall

/-- What the list tells of settings that were loaded. It numbers the texts, the files that are
required and the optional files whose paths lead to something, in the order in which they were
added. What was read are all texts, all files that are required, and the optional files for which a
file was found. The settings come from what was read and from nothing else. And the list is that of
what was read exactly if no optional path leads to a directory with nothing read for it, or leads
nowhere with a file read for it. -/
theorem listing_of_build {calls : List LoaderCall} {fs : FileSystem} {environment : Dict}
    {settings : Settings} (h : build calls fs environment = .ok settings) :
    ∃ l, loader calls = .ok l ∧
      l.listing fs = Loader.numbered
        (((sources calls).filter (Source.isListed fs)).map Source.label) ∧
      (∀ s ∈ sources calls, (s.textRead? fs).isSome = true ∨
        ∃ path, s = .optional path ∧ Source.fileAt? fs path = none) ∧
      Loader.load { l with
        sources := ((sources calls).filterMap (Source.textRead? fs)).map .text } fs environment =
          .ok settings ∧
      (l.listing fs = Loader.numbered
          (((sources calls).filter fun s => (s.textRead? fs).isSome).map Source.label) ↔
        ∀ path, .optional path ∈ sources calls → ¬ Source.Misleading fs path) := by
  obtain ⟨l, hl, htraced⟩ := loader_traced calls
  have hload : l.load fs environment = .ok settings := by
    rw [build, hl] at h
    exact h
  obtain ⟨root, hroot⟩ := Loader.exists_assignSources_of_load hload
  rw [← htraced.sources_eq]
  exact ⟨l, hl, l.listing_eq fs, fun s hs => Loader.read_of_assignSources hroot hs,
    Loader.load_texts hload, Loader.listing_eq_iff hroot⟩

/-- A file with settings whose name ends in `.toml`, and a directory. -/
def fileAndDirectory : FileSystem :=
  (FileSystem.fresh.provide "extra.toml" "[export]\noutdir = \"o\"\n").provide "conf/" ""

/-- A text, a file by its full name and a file that is missing. -/
def plainCalls : List LoaderCall :=
  [.add (.text "log.level = 3"), .add (.optional "missing"), .add (.optional "extra.toml")]

/-- The text and the file are read and listed. -/
theorem listing_of_build_plain :
    ∃ settings l, build plainCalls fileAndDirectory .empty = .ok settings ∧
      settings.transfer.outdir = "o" ∧ loader plainCalls = .ok l ∧
      l.listing fileAndDirectory = ["1. [string] <string>", "2. [optional] extra.toml"] := by
  have hbuild : (build plainCalls fileAndDirectory .empty).map (·.transfer.outdir) = .ok "o" := by
    decide +kernel
  rcases hsettings : build plainCalls fileAndDirectory .empty with fault | settings
  · rw [hsettings] at hbuild
    exact nomatch hbuild
  obtain ⟨l, hl, _, _, _, hlisting⟩ := listing_of_build hsettings
  -- The missing path leads nowhere and has no ending to add, and the other is a file.
  have htrue : ∀ path, .optional path ∈ sources plainCalls →
      ¬ Source.Misleading fileAndDirectory path := by
    intro path hpath
    have hnames : path = "missing" ∨ path = "extra.toml" := by
      simpa [plainCalls, sources, source?] using hpath
    rcases hnames with rfl | rfl
    · decide +kernel
    · decide +kernel
  refine ⟨settings, l, rfl, ?_, hl, (hlisting.mpr htrue).trans ?_⟩
  · rw [hsettings] at hbuild
    exact Except.ok.inj hbuild
  · decide +kernel

/-- A file that is found once the ending has been added is read and not listed, and a directory is
listed although nothing is read for it. -/
theorem listing_untrue :
    let calls : List LoaderCall := [.add (.optional "extra"), .add (.optional "conf")]
    (build calls fileAndDirectory .empty).map (·.transfer.outdir) = .ok "o" ∧
      (loader calls).map (·.listing fileAndDirectory) = .ok ["1. [optional] conf"] ∧
      (Source.optional "extra").textRead? fileAndDirectory = some "[export]\noutdir = \"o\"\n" ∧
      (Source.optional "conf").textRead? fileAndDirectory = none := by
  decide +kernel

end LoaderCall

end EnvProfiles
