import EnvProfiles.Proofs.Files.Directories
import EnvProfiles.Proofs.Transfer.FileNames

/-!
# What an Export Leaves

What is found after texts have been written into a directory, one file after the
other. Where a file is to be written there must be no link, since that would be
followed to another place. Then each file is in the directory under its name,
and only these files have been written.

A file that is written over can have other names. The text is then found under
all of them, in whatever directory, and if two of the names are those of files
that are to be written, the later text is found at both. So what counts is which
text is the last to come into a file.

## Main definitions

* `Command.HoldsNoLinks`: No link is found in a directory.
* `Command.IsLast`: No later text is written to the same file.
* `Command.Written`: What has become of the files.

## Theorems

* `Command.write_join`: One file is written into a directory.
* `Command.writeAll_ok`: All files are.
* `Command.exportAll_cases`: What it means that an export succeeds.
-/

namespace EnvProfiles

namespace Command

variable {fs fs' : FileSystem} {dir : Location} {outdir name text : String}
  {settings : ExportSettings}

/-- No link is found in a directory. -/
def HoldsNoLinks (fs : FileSystem) (dir : Location) : Prop :=
  ∀ name, fs.terrain.NoLink (dir ++ [name])

theorem holdsNoLinks_of_holdsNoFiles (h : fs.HoldsNoFiles dir) : HoldsNoLinks fs dir :=
  fun name => FileSystem.noLink_iff.mpr fun target hlink => nomatch h name (.link target) hlink

/-- Of the entries after this one, none has a place in a directory that is a name of the same
file. -/
def IsLast (fs : FileSystem) (settings : ExportSettings) (dir : Location)
    (entries : List (String × String)) (e : String × String) : Prop :=
  ∃ before after, entries = before ++ e :: after ∧ ∀ later ∈ after,
    ¬ fs.sameFile (dir ++ [settings.fileName e.1]) (dir ++ [settings.fileName later.1])

/-- What has become of the files after texts have been written into a directory. -/
structure Written (settings : ExportSettings) (outdir : String) (dir : Location)
    (entries : List (String × String)) (fs fs' : FileSystem) : Prop where
  wellFormed : fs'.WellFormed
  grows : fs.Grows fs'
  sameFile : ∀ a b, fs'.sameFile a b = fs.sameFile a b
  locate : ∀ e ∈ entries, fs'.locate (Path.join outdir (settings.fileName e.1)) =
    .ok (dir ++ [settings.fileName e.1])
  /-- Where a file has been written there was no directory. -/
  ne_directory : ∀ e ∈ entries, fs.entry? (dir ++ [settings.fileName e.1]) ≠ some .directory
  shown : ∀ e, IsLast fs settings dir entries e → ∀ place,
    fs.sameFile (dir ++ [settings.fileName e.1]) place → fs'.entry? place = some (.text e.2)
  kept : ∀ place, (∀ e ∈ entries, ¬ fs.sameFile (dir ++ [settings.fileName e.1]) place) →
    fs'.entry? place = fs.entry? place

/-- A text that is written below a directory is in a file of the directory. -/
theorem write_join (hfs : fs.WellFormed) (henters : fs.Enters outdir dir) (hname : IsName name)
    (hlink : fs.terrain.NoLink (dir ++ [name]))
    (h : fs.write (Path.join outdir name) text = .ok fs') :
    fs.entry? (dir ++ [name]) ≠ some .directory ∧ fs' = fs.put (dir ++ [name]) (.text text) ∧
      fs'.locate (Path.join outdir name) = .ok (dir ++ [name]) := by
  have hgrows := FileSystem.grows_of_write h
  obtain ⟨place, hplace, hfile, rfl⟩ := FileSystem.write_cases h
  have hchild := henters.locate_join hfs hname hlink hplace
  rw [hchild] at hplace hgrows hfile ⊢
  exact ⟨hfile, rfl, hgrows.locate hplace⟩

theorem writeAll_cons_cases {key value : String} {r : List (String × String)}
    (h : writeAll settings outdir ((key, value) :: r) fs = (.ok (), fs')) :
    ∃ written, fs.write (Path.join outdir (settings.fileName key)) value = .ok written ∧
      writeAll settings outdir r written = (.ok (), fs') := by
  unfold writeAll at h
  dsimp only at h
  split at h
  next written hwrite => exact ⟨written, hwrite, h⟩
  next => exact nomatch (Prod.mk.inj h).1

theorem isLast_cons {e other : String × String} {r : List (String × String)}
    (h : IsLast fs settings dir (e :: r) other) :
    (other = e ∧ ∀ later ∈ r,
      ¬ fs.sameFile (dir ++ [settings.fileName e.1]) (dir ++ [settings.fileName later.1])) ∨
      IsLast fs settings dir r other := by
  obtain ⟨before, after, heq, hlater⟩ := h
  cases before with
  | nil =>
      obtain ⟨rfl, rfl⟩ := List.cons.inj heq
      exact .inl ⟨rfl, hlater⟩
  | cons first before => exact .inr ⟨before, after, (List.cons.inj heq).2, hlater⟩

/-- After one text, others are written. -/
theorem Written.cons {e : String × String} {r : List (String × String)}
    (hplace : dir ++ [settings.fileName e.1] ≠ [])
    (hgrows : fs.Grows (fs.put (dir ++ [settings.fileName e.1]) (.text e.2)))
    (hfile : fs.entry? (dir ++ [settings.fileName e.1]) ≠ some .directory)
    (hlocate : FileSystem.locate (fs.put (dir ++ [settings.fileName e.1]) (.text e.2))
      (Path.join outdir (settings.fileName e.1)) = .ok (dir ++ [settings.fileName e.1]))
    (h : Written settings outdir dir r
      (fs.put (dir ++ [settings.fileName e.1]) (.text e.2)) fs') :
    Written settings outdir dir (e :: r) fs fs' := by
  -- Which places are names of one file is the same before and after the first text.
  have hnames : ∀ a b, FileSystem.sameFile (fs.put _ (.text e.2)) a b = fs.sameFile a b :=
    FileSystem.sameFile_put hplace (.text e.2)
  refine ⟨h.wellFormed, hgrows.trans h.grows, fun a b => (h.sameFile a b).trans (hnames a b),
    fun other hother => ?_, fun other hother => ?_, fun other hlast place hsame => ?_,
    fun place hplaces => ?_⟩
  · rcases List.mem_cons.mp hother with rfl | hother
    · exact h.grows.locate hlocate
    · exact h.locate other hother
  · rcases List.mem_cons.mp hother with rfl | hother
    · exact hfile
    · exact fun hc => h.ne_directory other hother (hgrows.directory hc)
  · rcases isLast_cons hlast with ⟨rfl, hlater⟩ | ⟨before, after, rfl, hlater⟩
    · -- The first text is still there, since no other one has come into its file.
      rw [h.kept place, FileSystem.entry?_put hplace, if_pos hsame]
      intro later hmem hc
      rw [hnames, FileSystem.sameFile_comm] at hc
      refine hlater later hmem ?_
      rw [FileSystem.sameFile, FileSystem.places_eq_of_sameFile hsame]
      exact hc
    · refine h.shown other ⟨before, after, rfl, fun later hmem => ?_⟩ place
        ((hnames _ _).trans hsame)
      rw [hnames]
      exact hlater later hmem
  · rw [h.kept place, FileSystem.entry?_put hplace, if_neg (hplaces e List.mem_cons_self)]
    intro later hlater
    rw [hnames]
    exact hplaces later (List.mem_cons_of_mem _ hlater)

/-- After texts have been written below a directory, each is in a file of the directory, and no
other file has been written. -/
theorem writeAll_ok {entries : List (String × String)} (hfs : fs.WellFormed)
    (henters : fs.Enters outdir dir)
    (hlinks : ∀ e ∈ entries, fs.terrain.NoLink (dir ++ [settings.fileName e.1]))
    (hnames : ∀ e ∈ entries, IsName (settings.fileName e.1))
    (h : writeAll settings outdir entries fs = (.ok (), fs')) :
    Written settings outdir dir entries fs fs' := by
  induction entries generalizing fs with
  | nil =>
      have hsame : fs = fs' := (Prod.mk.inj h).2
      subst hsame
      exact ⟨hfs, .refl _, fun _ _ => rfl, fun e he => absurd he List.not_mem_nil,
        fun e he => absurd he List.not_mem_nil, fun e ⟨before, after, heq, _⟩ =>
          absurd heq.symm (List.append_ne_nil_of_right_ne_nil before (List.cons_ne_nil e after)),
        fun _ _ => rfl⟩
  | cons e r ih =>
      obtain ⟨key, value⟩ := e
      obtain ⟨written, hwrite, hrest⟩ := writeAll_cons_cases h
      have hgrows := FileSystem.grows_of_write hwrite
      have hwritten := hfs.write hwrite
      -- The first text is in the directory, and the rest is written where it has been put.
      obtain ⟨hfile, rfl, hlocate⟩ := write_join hfs henters
        (hnames _ List.mem_cons_self) (hlinks _ List.mem_cons_self) hwrite
      refine .cons (FileSystem.ne_nil_of_not_directory hfile) hgrows hfile hlocate ?_
      exact ih hwritten (henters.grows hgrows)
        (fun e he => hgrows.noLink (hlinks e (List.mem_cons_of_mem _ he)))
        (fun e he => hnames e (List.mem_cons_of_mem _ he)) hrest

/-- What it means that an export succeeds: all keys can name files, the directory has been made,
and all files have been written. -/
theorem exportAll_cases {σ : Type} [KeyStore σ] {store : σ} {count : Nat}
    (h : (exportAll store outdir settings fs).1 = .ok count) :
    ∃ entries made, KeyStore.entries store = .ok entries ∧ (∀ e ∈ entries, IsName e.1) ∧
      fs.makeDirectories outdir = (.ok (), made) ∧
      writeAll settings outdir entries made = (.ok (), (exportAll store outdir settings fs).2) ∧
      count = entries.length := by
  unfold exportAll at h ⊢
  split at h
  next => exact nomatch h
  next entries hentries =>
    split at h
    next => exact nomatch h
    next hall =>
      split at h
      next => exact nomatch h
      next made hmake =>
        split at h
        next => exact nomatch h
        next written hwrite =>
          refine ⟨entries, made, hentries, fun e he => ?_, hmake, ?_, (Except.ok.inj h).symm⟩
          · -- No key was found that names no file.
            have hkey := List.find?_eq_none.mp hall e he
            exact namesFile_iff.mp (by simpa using hkey)
          · simp only [hwrite]

/-! ### What an export leaves alone -/

/-- Texts are written where their paths lead, and to no other file, even if one of them is
refused. -/
theorem writeAll_spares (settings : ExportSettings) (outdir : String)
    (entries : List (String × String)) (fs : FileSystem) :
    fs.Grows (writeAll settings outdir entries fs).2 ∧
      (∀ a b, (writeAll settings outdir entries fs).2.sameFile a b = fs.sameFile a b) ∧
      ∀ place,
        (∀ e ∈ entries, ∀ target, (writeAll settings outdir entries fs).2.locate
          (Path.join outdir (settings.fileName e.1)) = .ok target → ¬ fs.sameFile target place) →
        FileSystem.entry? (writeAll settings outdir entries fs).2 place = fs.entry? place := by
  fun_induction writeAll settings outdir entries fs with
  | case1 fs => exact ⟨.refl fs, fun _ _ => rfl, fun _ _ => rfl⟩
  | case2 key text r fs path written hwrite ih =>
      obtain ⟨hgrows, hsame, hspares⟩ := ih
      -- What was written first and what was written later both leave the place alone.
      obtain ⟨target, hlocate, hfile, rfl⟩ := FileSystem.write_cases hwrite
      have hplace := FileSystem.ne_nil_of_not_directory hfile
      have hnames : ∀ a b, FileSystem.sameFile (fs.put target (.text text)) a b =
          fs.sameFile a b := FileSystem.sameFile_put hplace (.text text)
      have hall := (FileSystem.grows_of_write hwrite).trans hgrows
      refine ⟨hall, fun a b => (hsame a b).trans (hnames a b), fun place hplaces => ?_⟩
      rw [hspares place fun e he found hfound => ?_, FileSystem.entry?_put hplace, if_neg ?_]
      · -- A path that led to a place when its text was written leads there at the end.
        exact hplaces (key, text) List.mem_cons_self target (hall.locate hlocate)
      · rw [hnames]
        exact hplaces e (List.mem_cons_of_mem _ he) found hfound
  | case3 key text r fs => exact ⟨.refl fs, fun _ _ => rfl, fun _ _ => rfl⟩

/-- What an export leaves: nothing was done, or directories were made and then texts written. -/
theorem exportAll_files {σ : Type} [KeyStore σ] (store : σ) (outdir : String)
    (settings : ExportSettings) (fs : FileSystem) :
    (exportAll store outdir settings fs).2 = fs ∨ ∃ made : FileSystem, fs.AddsDirectories made ∧
      ((exportAll store outdir settings fs).2 = made ∨
        ∃ entries, KeyStore.entries store = .ok entries ∧
          (exportAll store outdir settings fs).2 = (writeAll settings outdir entries made).2) := by
  -- Even a failed attempt at the directory may have made some of those above it.
  have hadds : fs.AddsDirectories (fs.makeDirectories outdir).2 :=
    FileSystem.makeDirectoriesWithin_adds _ fs outdir
  unfold exportAll
  split
  next => exact .inl rfl
  next entries hentries =>
    split
    next => exact .inl rfl
    next =>
      split
      next refusal made hmake =>
        rw [hmake] at hadds
        exact .inr ⟨made, hadds, .inl rfl⟩
      next made hmake =>
        rw [hmake] at hadds
        refine .inr ⟨made, hadds, .inr ⟨entries, hentries, ?_⟩⟩
        split
        next hwrite => rw [hwrite]
        next hwrite => rw [hwrite]

/-- The same places are names of one file after an export. -/
theorem exportAll_sameFile {σ : Type} [KeyStore σ] (store : σ) (outdir : String)
    (settings : ExportSettings) (fs : FileSystem) (a b : Location) :
    FileSystem.sameFile (exportAll store outdir settings fs).2 a b = fs.sameFile a b := by
  rcases exportAll_files store outdir settings fs with
    hsame | ⟨made, hadds, hmade | ⟨entries, -, hwritten⟩⟩
  · rw [hsame]
  · rw [hmade, hadds.sameFile]
  · rw [hwritten, (writeAll_spares settings outdir entries made).2.1, hadds.sameFile]

/-- An export leaves a place alone: no path along which a text is written leads to a name of the
file there, and no directory is made there. -/
structure Spares {σ : Type} [KeyStore σ] (store : σ) (outdir : String) (settings : ExportSettings)
    (fs : FileSystem) (place : Location) : Prop where
  not_written : ∀ entries, KeyStore.entries store = .ok entries → ∀ e ∈ entries, ∀ target,
    (exportAll store outdir settings fs).2.locate (Path.join outdir (settings.fileName e.1)) =
      .ok target → ¬ fs.sameFile target place
  not_made : FileSystem.entry? (exportAll store outdir settings fs).2 place = some .directory →
    fs.entry? place = some .directory

theorem all_toOption_iff {ε α : Type} {result : Except ε α} {p : α → Bool} :
    result.toOption.all p = true ↔ ∀ a, result = .ok a → p a = true := by
  cases result <;> simp [Except.toOption]

instance {σ : Type} [KeyStore σ] (store : σ) (outdir : String) (settings : ExportSettings)
    (fs : FileSystem) (place : Location) : Decidable (Spares store outdir settings fs place) :=
  decidable_of_iff
    (((KeyStore.entries store).toOption.all fun entries => entries.all fun e =>
        ((exportAll store outdir settings fs).2.locate
          (Path.join outdir (settings.fileName e.1))).toOption.all fun target =>
            !fs.sameFile target place) = true ∧
      (FileSystem.entry? (exportAll store outdir settings fs).2 place = some .directory →
        fs.entry? place = some .directory))
    (by
      simp only [all_toOption_iff, List.all_eq_true, Bool.not_eq_true', ← Bool.not_eq_true]
      exact ⟨fun h => ⟨h.1, h.2⟩, fun h => ⟨h.not_written, h.not_made⟩⟩)

/-- Where an export neither writes nor makes a directory, there is what was there before, even if
the export fails. -/
theorem Spares.entry?_eq {σ : Type} [KeyStore σ] {store : σ} {place : Location}
    (h : Spares store outdir settings fs place) :
    FileSystem.entry? (exportAll store outdir settings fs).2 place = fs.entry? place := by
  rcases exportAll_files store outdir settings fs with
    hsame | ⟨made, hadds, hmade | ⟨entries, hentries, hwritten⟩⟩
  · rw [hsame]
  · have hnew := h.not_made
    rw [hmade] at hnew ⊢
    exact hadds.entry?_eq hnew
  · have hpaths := h.not_written entries hentries
    have hnew := h.not_made
    rw [hwritten] at hpaths hnew ⊢
    -- No text has come there, so what is there came with the directories, if it is new.
    have hkept := (writeAll_spares settings outdir entries made).2.2 place fun e he target hled =>
      (hadds.sameFile target place).symm ▸ hpaths e he target hled
    rw [hkept] at hnew ⊢
    exact hadds.entry?_eq hnew

end Command

end EnvProfiles
