import EnvProfiles.Proofs.Stores.Opening

/-!
# What Is Stored

Opening a database is no reading: directories are made above it, the file is made
if there is none, a table is made in a file without one, and what stands beside the
file is removed or taken into use. Closing it can remove a log. What is shown here
is that the entries come through all this unharmed. The database that was opened
has the ones that were stored at its place, and when it has been closed they are
stored there as before.

Nothing has to be known about the files for this, not even that they form a tree. A
table is only made where none is stored, and then there were no entries either.

## Main definitions

* `FileSystem.stored`: The entries that are stored at a place.
* `Database.Shows`: A database has the entries that are stored at its place.

## Theorems

* `Database.shows_of_observe`: What is found at a place decides how it is opened.
* `Database.shows_of_openAt`: Opening and closing a database leaves what is stored
  as it was.
-/

namespace EnvProfiles

/-- The rows of the table that is stored at a place. Where there is no table there are none. -/
def FileSystem.stored (fs : FileSystem) (place : Location) : List (String × String) :=
  match fs.entry? place with
  | some (.database rows) => rows
  | _ => []

namespace Database

variable {db : Database} {fs made opened : FileSystem} {place : Location} {access : FileAccess}
  {path : String}

/-! ### What is stored -/

theorem stored_of_table {rows : List (String × String)}
    (h : fs.entry? place = some (.database rows)) : fs.stored place = rows := by
  rw [FileSystem.stored, h]

theorem stored_of_not_table (h : ∀ rows, fs.entry? place ≠ some (.database rows)) :
    fs.stored place = [] := by
  unfold FileSystem.stored
  split
  next rows htable => exact absurd htable (h rows)
  next => rfl

/-- A database is kept at a place and has the rows that were stored there, and they are still stored
there. -/
structure Shows (db : Database) (fs files : FileSystem) (place : Location) (access : FileAccess) :
    Prop where
  keeping : db.keeping = .file place access
  rows_eq : db.table.rows = fs.stored place
  entry?_eq : FileSystem.entry? files place = some (.database (fs.stored place))

/-- A table is made where none is stored. -/
theorem shows_of_fill {emptied : Database} {cleared : FileSystem} (hplace : place ≠ [])
    (hkeeping : emptied.keeping = .file place access) (hnone : fs.stored place = [])
    (h : emptied.fill place access cleared = (.ok db, opened)) :
    db.Shows fs opened place access := by
  rcases fill_cases h with ⟨_, rfl, rfl⟩
  refine ⟨hkeeping, hnone.symm, ?_⟩
  simp [hplace, hnone]

/-- What is found at the place of a database decides how it is opened. -/
theorem shows_of_observe {found : Database × FileSystem} (hplace : place ≠ [])
    (hobserve : (untouched path place access).observe fs = found)
    (h : (match found.1.condition with
      | .sound => (.ok found.1, found.2)
      | .spoiled detail => (.error (.refused detail), found.2)
      | _ => found.1.fill place access found.2) = (Except.ok (ε := StoreFault) db, opened)) :
    db.Shows fs opened place access := by
  have hfit : ∀ detail, found.1.condition ≠ .spoiled detail := by
    intro detail hc
    rw [hc] at h
    exact nomatch (Prod.mk.inj h).1
  -- A table is taken as it is. In an empty place, and where nothing is, a new one is made.
  cases finds_of_observe hobserve hfit with
  | table rows htable hfinds =>
      have hstored := stored_of_table htable
      have hsound : found.1.condition = .sound := congrArg Database.condition hfinds.fst_eq
      rw [hsound] at h
      rcases Prod.mk.inj h with ⟨hdb, rfl⟩
      obtain rfl : found.1 = db := Except.ok.inj hdb
      exact ⟨congrArg Database.keeping hfinds.fst_eq,
        (congrArg (fun d => d.table.rows) hfinds.fst_eq).trans hstored.symm,
        hstored.symm ▸ hfinds.entry?_eq.trans htable⟩
  | empty hnone hempty hcondition =>
      have hkeeping : found.1.keeping = .file place access :=
        hempty ▸ (observeEmpty_alike _ place access fs).keeping
      rw [hcondition] at h
      exact shows_of_fill hplace hkeeping (stored_of_not_table hnone) h
  | nothing hnothing =>
      refine shows_of_fill hplace rfl (stored_of_not_table fun rows hrows => ?_) h
      rcases hnothing _ hrows with ⟨target, hlink⟩
      exact nomatch hlink

theorem shows_of_openFound (h : openFound fs path place access = (.ok db, opened)) :
    db.Shows fs opened place access := by
  unfold openFound at h
  dsimp only at h
  split at h
  next => exact nomatch (Prod.mk.inj h).1
  next entry hdir hentry =>
    have hplace : place ≠ [] :=
      FileSystem.ne_nil_of_not_directory fun hc => hdir (Option.some.inj (hentry.symm.trans hc))
    exact shows_of_observe hplace rfl h
  next habsent =>
    have hplace := FileSystem.ne_nil_of_absent habsent
    split at h
    next =>
      -- The file that is made first holds no table, no more than there was one before.
      have hput : FileSystem.stored (fs.put place (.text "")) place = fs.stored place := by
        simp [FileSystem.stored, hplace, habsent]
      have hshows := shows_of_observe hplace rfl h
      exact ⟨hshows.keeping, hput ▸ hshows.rows_eq, hput ▸ hshows.entry?_eq⟩
    next => exact nomatch (Prod.mk.inj h).1

/-- New directories take nothing away from what is stored. -/
theorem stored_addsDirectories (h : fs.AddsDirectories made) (place : Location) :
    made.stored place = fs.stored place := by
  cases hentry : fs.entry? place with
  | some entry => rw [FileSystem.stored, FileSystem.stored, h.kept hentry, hentry]
  | none =>
      have hbefore : fs.stored place = [] :=
        stored_of_not_table fun rows hrows => nomatch hentry.symm.trans hrows
      have hafter : made.stored place = [] :=
        stored_of_not_table fun rows hrows => nomatch h.added hentry hrows
      rw [hbefore, hafter]

/-- What stands beside a database is removed when it is closed, and its file stays. -/
theorem entry?_close (hkeeping : db.keeping = .file place access) :
    FileSystem.entry? (db.close fs) place = fs.entry? place := by
  rw [close, hkeeping]
  dsimp only
  split <;> simp

/-- To open a database and to close it again leaves what is stored as it was. -/
theorem shows_of_openAt (h : openAt fs path = (.ok db, opened))
    (hkeeping : db.keeping = .file place access) :
    db.Shows fs (db.close opened) place access := by
  rcases openAt_cases h with ⟨made, hmake, hopen⟩
  rcases openNamed_cases hopen hkeeping with ⟨_, place', access', _, _, hfile⟩
  have hadds : fs.AddsDirectories made := by
    have hall := FileSystem.makeDirectoriesWithin_adds (((Path.parent? path).getD "").length + 1)
      fs ((Path.parent? path).getD "")
    rwa [show FileSystem.makeDirectoriesWithin _ fs _ = (.ok (), made) from hmake] at hall
  have hshows := shows_of_openFound (openFile_cases hfile).2
  obtain ⟨rfl, rfl⟩ : place' = place ∧ access' = access := by
    have hsame := hshows.keeping.symm.trans hkeeping
    rwa [Keeping.file.injEq] at hsame
  have hstored := stored_addsDirectories hadds place'
  refine ⟨hkeeping, hstored ▸ hshows.rows_eq, ?_⟩
  rw [entry?_close hkeeping, ← hstored]
  exact hshows.entry?_eq

end Database

end EnvProfiles
