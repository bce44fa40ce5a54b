import EnvProfiles.Proofs.Transfer.Export
import EnvProfiles.Store.Memory

/-!
# Exports That Are Refused

What becomes of an export if a key cannot name a file. Keys are looked at before
anything is written, so a key that is empty, that is dots or that holds a slash
ends the export when nothing has been done yet.

A name may also be refused by the system alone, because it holds a null or is
too long. Such a key is not noticed until its file is written. The export fails
all the same, but by then the directory is there, and so are the files of the
keys before it.

## Main definitions

* `Command.nulled`: A store in which the second key holds a null.

## Theorems

* `Command.exportAll_of_not_isName`: A key that is noticed leaves no trace.
* `Command.fits_of_write`: What is written has a name that the system takes.
* `Command.exportAll_unfit_key`: With a key that cannot name a file, an export
  fails.
* `Command.exportAll_nulled`: The null of `nulled` is noticed too late.
-/

namespace EnvProfiles

/-- A path below another one ends with what is below. -/
theorem Path.exists_join_eq (path below : String) : ∃ front, join path below = front ++ below := by
  unfold join
  split
  · exact ⟨"", (String.empty_append).symm⟩
  · split
    · exact ⟨path, rfl⟩
    · exact ⟨path ++ "/", rfl⟩

/-- A name is followed wherever it is to be found. -/
theorem Terrain.mem_demandedNames_join {name : String} (h : IsName name) (path : String) :
    name ∈ demandedNames (Path.join path name) := by
  by_cases hpath : path = ""
  · subst hpath
    rw [Path.join_empty, h.demandedNames_eq]
    exact List.mem_cons_self
  · rw [demandedNames_join hpath h]
    exact List.mem_append_right _ List.mem_cons_self

namespace Command

variable {fs fs' : FileSystem} {outdir key name text : String} {settings : ExportSettings}
  {entries : List (String × String)}

/-- A path along which something is written holds no null. -/
theorem no_null_of_write (h : fs.write (Path.join outdir name) text = .ok fs') :
    '\x00' ∉ name.toList := by
  obtain ⟨place, hlocate, _⟩ := FileSystem.write_cases h
  -- The path ends with the name, so a null in the name would be one of the path.
  obtain ⟨front, hjoin⟩ := Path.exists_join_eq outdir name
  have hnull := (Terrain.along_eq_ok_iff.mp hlocate).1.no_null
  rw [hjoin, String.toList_append] at hnull
  exact fun hc => hnull (List.mem_append_right _ hc)

/-- A name under which something is written is not too long. -/
theorem size_of_write (hname : IsName name) (h : fs.write (Path.join outdir name) text = .ok fs') :
    name.utf8ByteSize ≤ Terrain.nameLimit := by
  obtain ⟨place, hlocate, _⟩ := FileSystem.write_cases h
  exact Terrain.size_of_follow (Terrain.along_eq_ok_iff.mp hlocate).2
    (Terrain.mem_demandedNames_join hname outdir) hname.ne_dot hname.ne_dots

/-- If all texts are written, each has been. -/
theorem exists_write_of_writeAll (h : writeAll settings outdir entries fs = (.ok (), fs')) :
    ∀ e ∈ entries, ∃ before after : FileSystem,
      before.write (Path.join outdir (settings.fileName e.1)) e.2 = .ok after := by
  induction entries generalizing fs with
  | nil => exact fun _ he => absurd he List.not_mem_nil
  | cons e r ih =>
      obtain ⟨written, hwrite, hrest⟩ := writeAll_cons_cases h
      intro e' he'
      rcases List.mem_cons.mp he' with rfl | he'
      · exact ⟨fs, written, hwrite⟩
      · exact ih hrest e' he'

/-- A key that is empty, that is dots or that holds a slash ends an export before it has done
anything. The first such key is named. -/
theorem exportAll_of_not_isName {σ : Type} [KeyStore σ] {store : σ} (settings : ExportSettings)
    (outdir : String) (fs : FileSystem)
    (hentries : KeyStore.entries store = .ok entries) (hkey : key ∈ entries.map Prod.fst)
    (hname : ¬ IsName key) :
    ∃ before first text after, entries = before ++ (first, text) :: after ∧ ¬ IsName first ∧
      (∀ e ∈ before, IsName e.1) ∧
      exportAll store outdir settings fs = (.error (.files (.invalidName first)), fs) := by
  obtain ⟨e, he, rfl⟩ := List.mem_map.mp hkey
  -- Such a key exists, so the search for the first one finds something.
  have hsome : (entries.find? fun e => !namesFile e.1).isSome :=
    List.find?_isSome.mpr ⟨e, he, by simpa using fun hc => hname (namesFile_iff.mp hc)⟩
  obtain ⟨⟨first, text⟩, hfirst⟩ := Option.isSome_iff_exists.mp hsome
  obtain ⟨hbad, before, after, hsplit, hbefore⟩ := List.find?_eq_some_iff_append.mp hfirst
  refine ⟨before, first, text, after, hsplit, ?_, fun e he => ?_, ?_⟩
  · simpa using fun hc => by simp [namesFile_iff.mpr hc] at hbad
  · exact namesFile_iff.mp (by simpa using hbefore e he)
  · unfold exportAll
    simp only [hentries, hfirst]

/-- With a key that cannot name a file in a directory an export fails. If the key itself is no name,
then all files and directories are as they were. If it holds a null, or with the extension is longer
than a name can be, then it fails as well, but it may have made the directory and written the files
of other keys before. -/
theorem exportAll_unfit_key {σ : Type} [KeyStore σ] (store : σ) (settings : ExportSettings)
    (outdir : String) (fs : FileSystem) (hentries : KeyStore.entries store = .ok entries)
    (hkey : key ∈ entries.map Prod.fst) :
    (¬ IsName key → ∃ first ∈ entries.map Prod.fst, ¬ IsName first ∧
      exportAll store outdir settings fs = (.error (.files (.invalidName first)), fs)) ∧
    ('\x00' ∈ key.toList → ∃ fault, (exportAll store outdir settings fs).1 = .error fault) ∧
    ('/' ∉ settings.extension.toList →
      Terrain.nameLimit < (settings.fileName key).utf8ByteSize →
      ∃ fault, (exportAll store outdir settings fs).1 = .error fault) := by
  -- An export that succeeds has written the file of the key.
  have hwritten : ∀ count, (exportAll store outdir settings fs).1 = .ok count → IsName key ∧
      ∃ before after text,
        FileSystem.write before (Path.join outdir (settings.fileName key)) text = .ok after := by
    intro count hcount
    obtain ⟨found, made, hfound, hnames, _, hwrite, _⟩ := exportAll_cases hcount
    obtain ⟨e, he, rfl⟩ := List.mem_map.mp hkey
    have hmem : e ∈ found := Except.ok.inj (hentries.symm.trans hfound) ▸ he
    obtain ⟨before, after, hwrite⟩ := exists_write_of_writeAll hwrite e hmem
    exact ⟨hnames e hmem, before, after, e.2, hwrite⟩
  refine ⟨fun hname => ?_, fun hnull => ?_, fun hext hsize => ?_⟩
  · obtain ⟨before, first, text, after, hsplit, hfirst, _, hexport⟩ :=
      exportAll_of_not_isName settings outdir fs hentries hkey hname
    exact ⟨first, hsplit ▸ List.mem_map_of_mem (List.mem_append_right _ List.mem_cons_self), hfirst,
      hexport⟩
  · cases hexport : (exportAll store outdir settings fs).1 with
    | error fault => exact ⟨fault, rfl⟩
    | ok count =>
        obtain ⟨_, _, _, _, hwrite⟩ := hwritten count hexport
        refine absurd ?_ (no_null_of_write hwrite)
        rw [ExportSettings.toList_fileName]
        exact List.mem_append_left _ (List.mem_append_left _ hnull)
  · cases hexport : (exportAll store outdir settings fs).1 with
    | error fault => exact ⟨fault, rfl⟩
    | ok count =>
        obtain ⟨hname, _, _, _, hwrite⟩ := hwritten count hexport
        exact absurd (size_of_write (ExportSettings.isName_fileName hname hext) hwrite)
          (Nat.not_le.mpr hsize)

/-- Two keys, of which the second holds a null. -/
def nulled : MemoryStore := ⟨.ofList [("base", "env:\n  A: b\n"), ("x\x00", "env: \x7b\x7d\n")]⟩

/-- A slash in the second key is noticed before anything is done. -/
theorem exportAll_slashed :
    let store : MemoryStore := ⟨.ofList [("base", "env:\n  A: b\n"), ("x/y", "env: \x7b\x7d\n")]⟩
    "x/y" ∈ ["base", "x/y"] ∧ ¬ IsName "x/y" ∧
    exportAll store "out" .standard .fresh = (.error (.files (.invalidName "x/y")), .fresh) := by
  intro store
  have hentries : KeyStore.entries store
      = .ok [("base", "env:\n  A: b\n"), ("x/y", "env: \x7b\x7d\n")] := by rfl
  have hkey : "x/y" ∈ ["base", "x/y"] := by decide
  have hslash : ¬ IsName "x/y" := fun h => h.no_slash (by decide)
  obtain ⟨first, hmem, hfirst, hexport⟩ :=
    (exportAll_unfit_key store .standard "out" .fresh hentries hkey).1 hslash
  have hbase : IsName "base" := namesFile_iff.mp (by decide)
  have heq : first = "x/y" := by
    rcases List.mem_cons.mp hmem with rfl | hmem
    · exact absurd hbase hfirst
    · exact List.mem_singleton.mp hmem
  exact ⟨hkey, hslash, heq ▸ hexport⟩

/-- The null in the second key is noticed too late: the export fails, but the directory, which was
missing before, is there, and so is the file of the first key. -/
theorem exportAll_nulled :
    "x\x00" ∈ nulled.dict.names ∧ FileSystem.fresh.contains "out" = false ∧
    ∃ fault, (exportAll nulled "out" .standard .fresh).1 = .error fault ∧
      (exportAll nulled "out" .standard .fresh).2.isDirectory "out" = true ∧
      ((exportAll nulled "out" .standard .fresh).2.read "out/base.yml").toOption
        = some "env:\n  A: b\n" := by
  refine ⟨by decide +kernel, by decide +kernel, .files (.refused "out/x\x00.yml"
    Refusal.nullCharacter.detail), by rfl, by decide +kernel, by decide +kernel⟩

end Command

end EnvProfiles
