import EnvProfiles.Proofs.Stores.Kinds
import EnvProfiles.Proofs.Transfer.Export
import EnvProfiles.Proofs.Transfer.Import

/-!
# Export and Import

What has been exported to a directory without files is imported from there as it
was: the same keys with the same texts. The files that are read are those that
were written, since nothing else in the directory is a file, and the name of a
file tells its key. They are read in the order of their names, which is not that
of the keys: `a.yml` stands for the key `a`, and comes after `a b.yml`.

The directory may be missing before the export, which makes it. If a name of its
path leads upwards, the path can come to a directory that was there all the
time, with files of its own. These are imported along with the rest.

## Main definitions

* `Command.Exported`: The files in a directory are those of an export.

## Theorems

* `Command.importAll_exportAll`: The same keys with the same texts.
* `Command.importAll_exportAll_dotted`: Keys that hold dots.
* `Command.importAll_exportAll_upwards`: A path that leads upwards.
-/

namespace EnvProfiles

namespace Command

/-- Every text has been written to a file of its own in a directory, and nothing else there is a
file. -/
structure Exported (settings : ExportSettings) (outdir : String) (dir : Location)
    (entries : List (String × String)) (fs : FileSystem) : Prop where
  wellFormed : fs.WellFormed
  locate : fs.locate outdir = .ok dir
  directory : fs.entry? dir = some .directory
  read : ∀ e ∈ entries, fs.read (Path.join outdir (settings.fileName e.1)) = .ok e.2
  files : (regularFiles (fs.children dir)).Perm (entries.map fun e => settings.fileName e.1)
  /-- The name of each file tells the key. -/
  tells : ∀ e ∈ entries, settings.keyFor (settings.fileName e.1) = e.1

section RoundTrip

variable {σ τ : Type} [KeyStore σ] [KeyStore τ] [ContentStore τ]
  {store : σ} {other : τ} {c c' : Contents} {fs : FileSystem} {outdir : String} {dir : Location}
  {settings : ExportSettings} {entries : List (String × String)} {count : Nat}

/-- The names of the files are as different as the keys. -/
theorem fileNames_nodup (hlists : c.Lists entries) (settings : ExportSettings) :
    (entries.map fun e => settings.fileName e.1).Nodup :=
  List.pairwise_map.mpr (hlists.ascending.imp fun hlt heq =>
    String.ne_of_lt hlt (ExportSettings.fileName_injective heq))

/-- The files in a directory after texts have been written there are those that were written, if
there were none before. -/
theorem writeAll_exported {made : FileSystem} (hmade : made.WellFormed)
    (hlocate : made.locate outdir = .ok dir) (hdir : made.entry? dir = some .directory)
    (hnofiles : made.HoldsNoFiles dir) (hext : '/' ∉ settings.extension.toList)
    (hkeys : ∀ e ∈ entries, IsName e.1) (hlists : c.Lists entries)
    (h : writeAll settings outdir entries made = (.ok (), fs)) :
    Exported settings outdir dir entries fs := by
  have hdistinct := fileNames_nodup hlists settings
  have hwritten := writeAll_ok hmade
    (.inl ⟨hlocate, hdir⟩) (fun e _ => holdsNoLinks_of_holdsNoFiles hnofiles _)
    (fun e he => ExportSettings.isName_fileName (hkeys e he) hext) h
  have hfs := hwritten.wellFormed
  -- There were no files, so none that has a second name.
  have halone : ∀ e ∈ entries, made.Alone (dir ++ [settings.fileName e.1]) := by
    intro e he
    refine .of_absent (Option.eq_none_iff_forall_ne_some.mpr fun entry hentry => ?_)
    exact hwritten.ne_directory e he (hnofiles _ _ hentry ▸ hentry)
  have hchild : ∀ {name other : String}, dir ++ [name] = dir ++ [other] → name = other :=
    fun heq => List.head_eq_of_cons_eq (List.append_cancel_left heq)
  -- No later text has come into the same file, for later keys are other keys.
  have htexts : ∀ e ∈ entries, fs.entry? (dir ++ [settings.fileName e.1]) = some (.text e.2) := by
    intro e he
    obtain ⟨before, after, rfl⟩ := List.append_of_mem he
    refine hwritten.shown e ⟨before, after, rfl, fun later hlater hsame => ?_⟩ _
      (made.sameFile_refl _)
    have hkey := ExportSettings.fileName_injective (hchild (halone e he _ hsame))
    have hafter := (List.pairwise_append.mp hlists.ascending).2.1
    exact String.ne_of_lt ((List.pairwise_cons.mp hafter).1 later hlater) hkey.symm
  have hascending := regularFiles_ascending (hfs.children_ascending dir)
  have hnodup : (regularFiles (fs.children dir)).Nodup :=
    hascending.imp fun hlt => String.ne_of_lt hlt
  refine ⟨hfs, hwritten.grows.locate hlocate, hwritten.grows.directory hdir,
    fun e he => FileSystem.read_eq (hwritten.locate e he) (htexts e he),
    (List.perm_ext_iff_of_nodup hnodup hdistinct).mpr fun name => mem_regularFiles.trans ⟨?_, ?_⟩,
    fun e he => settings.keyFor_fileName (hkeys e he).ne_empty⟩
  · rintro ⟨entry, hmem, hregular⟩
    -- A file that was not written was there before, but then it was a directory.
    by_contra hname
    have hentry := hfs.mem_children.mp hmem
    rw [hwritten.kept _ fun e he hsame => hname ?_] at hentry
    · exact hregular.1 (hnofiles name entry hentry)
    · exact List.mem_map.mpr ⟨e, he, (hchild (halone e he _ hsame)).symm⟩
  · intro hname
    obtain ⟨e, he, rfl⟩ := List.mem_map.mp hname
    exact ⟨.text e.2, hfs.mem_children.mpr (htexts e he), fun hc => (nomatch hc),
      fun _ hc => nomatch hc⟩

/-- What an import from such a directory comes to: every key once, in the order of the file names,
and every text under its key. -/
theorem importAll_exported (h : Exported settings outdir dir entries fs) (hlists : c.Lists entries)
    (hother : ContentStore.Holds other c') :
    ∃ keys, (importAll other outdir settings fs).outcome = .ok keys ∧
      keys.Perm (entries.map Prod.fst) ∧ (keys.map settings.fileName).Pairwise (· < ·) ∧
      ContentStore.Holds (importAll other outdir settings fs).store
        fun key => (c key).or (c' key) := by
  rw [importAll_eq other h.locate h.directory]
  have hfiles := h.files
  have hascending := regularFiles_ascending (h.wellFormed.children_ascending dir)
  -- From here on only the names of the files count, each that of one entry.
  generalize regularFiles (fs.children dir) = files at hfiles hascending ⊢
  have hwritten : ∀ file ∈ files, ∃ e ∈ entries, settings.fileName e.1 = file := fun file hfile =>
    List.mem_map.mp (hfiles.mem_iff.mp hfile)
  have hread : ∀ file ∈ files, ∃ text, fs.read (Path.join outdir file) = .ok text ∧
      c (settings.keyFor file) = some text := by
    intro file hfile
    obtain ⟨e, he, rfl⟩ := hwritten file hfile
    refine ⟨e.2, h.read e he, ?_⟩
    rw [h.tells e he]
    exact (hlists.mem_iff e.1 e.2).mp he
  obtain ⟨houtcome, hholds⟩ := readAll_ok hother hread
  -- Each file gives back the key that it was named after.
  have hperm : (files.map settings.keyFor).Perm (entries.map Prod.fst) := by
    have hmapped := hfiles.map settings.keyFor
    rw [List.map_map] at hmapped
    rw [← List.map_congr_left h.tells]
    exact hmapped
  have hall : ∀ key, key ∈ files.map settings.keyFor ↔ ∃ text, c key = some text := fun key =>
    hperm.mem_iff.trans (hlists.keys.mem_iff key)
  have hnames : (files.map settings.keyFor).map settings.fileName = files := by
    rw [List.map_map]
    refine (List.map_congr_left fun file hfile => ?_).trans (List.map_id files)
    obtain ⟨e, he, rfl⟩ := hwritten file hfile
    exact congrArg settings.fileName (h.tells e he)
  rw [Contents.takeOver_all hall] at hholds
  exact ⟨files.map settings.keyFor, houtcome, hperm, hnames.symm ▸ hascending, hholds⟩

/-- What is left of other contents that are empty is nothing. -/
theorem lists_of_or_empty (hother : ContentStore.Holds other c')
    (hempty : KeyStore.entries other = .ok [])
    (h : Contents.Lists (fun key => (c key).or (c' key)) entries) : c.Lists entries := by
  obtain ⟨none', hnone, hlists⟩ := ContentStore.entries_eq hother
  -- A store without entries has no text for any key.
  cases hempty.symm.trans hnone
  have hsame : (fun key => (c key).or (c' key)) = c := by
    funext key
    have habsent : c' key = none := Option.eq_none_iff_forall_ne_some.mpr fun text htext =>
      absurd ((hlists.mem_iff key text).mpr htext) List.not_mem_nil
    rw [habsent, Option.or_none]
  exact hsame ▸ h

/-- An import brings back what has been exported to a directory without files: every key once, in
the order of the file names, and with its text. Whatever other keys the store has, it keeps with
their texts; a store without texts is afterwards like the one that was exported. -/
theorem importAll_exportAll (hstore : Reads store c) (hother : ContentStore.Holds other c')
    (hfs : fs.WellFormed) (hext : '/' ∉ settings.extension.toList) (hpath : outdir ≠ "")
    (hvacant : fs.Vacant outdir) (hexport : (exportAll store outdir settings fs).1 = .ok count) :
    let result := importAll other outdir settings (exportAll store outdir settings fs).2
    ∃ keys stored, result.outcome = .ok keys ∧ KeyStore.keys store = .ok stored ∧
      keys.Perm stored ∧ keys.Nodup ∧ (keys.map settings.fileName).Pairwise (· < ·) ∧
      (∀ key text, KeyStore.get? store key = .ok (some text) →
        KeyStore.get? result.store key = .ok (some text)) ∧
      (∀ key, KeyStore.get? store key = .ok none →
        KeyStore.get? result.store key = KeyStore.get? other key) ∧
      (KeyStore.entries other = .ok [] →
        KeyStore.entries result.store = KeyStore.entries store) := by
  obtain ⟨entries, made, hentries, hkeys, hmake, hwrite, _⟩ := exportAll_cases hexport
  obtain ⟨listed, hlisted, hlists⟩ := hstore.entries_eq
  cases hlisted.symm.trans hentries
  obtain ⟨stored, hstored, hlistsKeys⟩ := hstore.keys_eq
  obtain ⟨hmade, _⟩ := hfs.makeDirectoriesWithin_ok hmake
  obtain ⟨dir, hlocate, hdir, hnofiles⟩ := hvacant.holdsNoFiles hfs hpath hmake
  have hexported := writeAll_exported hmade hlocate hdir hnofiles hext hkeys hlists hwrite
  obtain ⟨keys, houtcome, hperm, hnames, hholds⟩ := importAll_exported hexported hlists hother
  rw [hlists.keys.unique hlistsKeys] at hperm
  refine ⟨keys, stored, houtcome, hstored, hperm,
    hperm.nodup_iff.mpr (hlistsKeys.ascending.imp fun hlt => String.ne_of_lt hlt), hnames,
    fun key text htext => ?_, fun key habsent => ?_, fun hempty => ?_⟩
  · rw [hstore.get?_eq] at htext
    rw [ContentStore.get?_eq hholds, Except.ok.inj htext, Option.some_or]
  · rw [hstore.get?_eq] at habsent
    rw [ContentStore.get?_eq hholds, ContentStore.get?_eq hother, Except.ok.inj habsent,
      Option.none_or]
  · obtain ⟨entries', hentries', hlists'⟩ := ContentStore.entries_eq hholds
    rw [hentries', hentries, (lists_of_or_empty hother hempty hlists').unique hlists]

end RoundTrip

/-! ### Particular exports -/

/-- Keys one of which is another one with the extension. -/
def dotted : MemoryStore := ⟨Dict.ofList [("a", "one"), ("a b", "two"), ("a.yml", "three")]⟩

/-- A store with one of these keys and another one. -/
def older : MemoryStore := ⟨Dict.ofList [("a", "old"), ("z", "kept")]⟩

/-- The order of the files is not that of the keys, and the store keeps its other key. -/
theorem importAll_exportAll_dotted :
    FileSystem.fresh.WellFormed ∧ FileSystem.fresh.Vacant "new/below" ∧
    (exportAll dotted "new/below" .standard .fresh).1 = .ok 3 ∧
    let result := importAll older "new/below" .standard
      (exportAll dotted "new/below" .standard .fresh).2
    result.outcome = .ok ["a b", "a", "a.yml"] ∧
      KeyStore.get? result.store "a" = .ok (some "one") ∧
      KeyStore.get? result.store "z" = .ok (some "kept") := by
  have hvacant : FileSystem.fresh.Vacant "new/below" :=
    .missing (by decide +kernel) (by decide +kernel)
  have hexport : (exportAll dotted "new/below" .standard .fresh).1 = .ok 3 := by rfl
  have hstore : Reads dotted dotted.dict.get? := ContentStore.reads rfl
  have hother : ContentStore.Holds older older.dict.get? := rfl
  obtain ⟨keys, stored, houtcome, hstored, hperm, _, hnames, htexts, hothers, _⟩ :=
    importAll_exportAll hstore hother FileSystem.fresh_wellFormed (by decide) (by decide) hvacant
      hexport
  cases hstored
  -- The keys are known but for their order, and the order of the file names settles that.
  have hkeys : keys = ["a b", "a", "a.yml"] :=
    eq_of_ascending ExportSettings.standard.fileName (List.pairwise_map.mp hnames) (by decide)
      fun key => hperm.mem_iff.trans (List.Perm.swap "a" "a b" ["a.yml"]).mem_iff.symm
  exact ⟨FileSystem.fresh_wellFormed, hvacant, hexport, hkeys ▸ houtcome,
    htexts "a" "one" (by rfl), hothers "z" (by rfl)⟩

/-- One key. -/
def single : MemoryStore := ⟨Dict.ofList [("base", "env:\n  A: b\n")]⟩

/-- A file where the program runs. -/
def besideNotes : FileSystem := FileSystem.fresh.put ["work", "notes"] (.text "hello")

/-- A path that leads to nothing before an export can lead upwards to a directory with files, once
its first directory has been made. They are imported as well. -/
theorem importAll_exportAll_upwards :
    besideNotes.WellFormed ∧ besideNotes.contains "missing/.." = false ∧
    (exportAll single "missing/.." .standard besideNotes).1 = .ok 1 ∧
    KeyStore.keys single = .ok ["base"] ∧
    ¬ ∃ keys, (importAll MemoryStore.empty "missing/.." .standard
        (exportAll single "missing/.." .standard besideNotes).2).outcome = .ok keys ∧
      keys.Perm ["base"] := by
  refine ⟨by decide, by decide +kernel, by rfl, by rfl, ?_⟩
  rintro ⟨keys, houtcome, hperm⟩
  -- The import goes through the directory where the program runs, and finds `notes` there.
  have hafter : (exportAll single "missing/.." .standard besideNotes).2.WellFormed := by
    decide +kernel
  have hlocate : (exportAll single "missing/.." .standard besideNotes).2.locate "missing/.." =
      .ok ["work"] := by rfl
  rw [importAll_eq MemoryStore.empty hlocate (by rfl)] at houtcome
  have hnotes : "notes" ∈ regularFiles
      ((exportAll single "missing/.." .standard besideNotes).2.children ["work"]) :=
    mem_regularFiles.mpr ⟨.text "hello", hafter.mem_children.mpr (by rfl),
      fun hc => (nomatch hc), fun _ hc => nomatch hc⟩
  have hkey := List.mem_map_of_mem (f := ExportSettings.standard.keyFor) hnotes
  rw [← readAll_keys houtcome] at hkey
  exact absurd (hperm.mem_iff.mp hkey) (by decide +kernel)

end Command

end EnvProfiles
