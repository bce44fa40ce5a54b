import EnvProfiles.Proofs.Files.Directories
import EnvProfiles.Proofs.Stores.Observing

/-!
# Opening the File of a Database

A database that is kept in a file can be closed at any time: when its path is
opened again, the same table is found. Two things have to be shown for this. The
path has to lead to the same file, although files have come and gone beside it.
It does, since no way leads through a file, and so none through those that stand
beside a database, unless they are links. And the file has to hold the table,
with nothing beside it that is in the way. This is what `Kept` says of an open
database, and opening one brings it about.

A path through such a link is another matter. Closing a database can remove the
link, and then its path leads elsewhere or nowhere.

## Main definitions

* `Database.FreeBeside`: No way leads through what stands beside a database.
* `Database.Leads`: A path leads to the file of a database.
* `Database.Clear`: Nothing beside a file is in the way.
* `Database.Kept`: The file of an open database holds its table.
* `Database.Finds`: What a database finds that has not been looked at before.

## Theorems

* `Database.placeOf_congr`: As long as links stay, a name stands for its place.
* `Database.Leads.openAt_eq`: What it means to open a file with a table.
* `Database.kept_of_openAt`: A database that has been opened is kept.
* `Database.Kept.reopen`: It can be closed and opened again.
-/

namespace EnvProfiles

/-- What has become neither more nor less of a link. -/
theorem FileSystem.Keeps.link_iff {fs fs' : FileSystem} {place : Location} {target : String}
    (h : fs.Keeps fs') :
    fs'.entry? place = some (.link target) ↔ fs.entry? place = some (.link target) := by
  have hfound : ∀ files : FileSystem, files.entry? place = some (.link target) ↔
      files.terrain.found place = .link target := by
    intro files
    rw [FileSystem.found_eq]
    rcases files.entry? place with _ | (_ | _ | _ | _ | _) <;> simp [FileSystem.waypoint]
  rw [hfound, hfound]
  refine ⟨fun hlink => ?_, fun hlink => h.terrain.link hlink⟩
  rcases fs.terrain.noLink_or_link place with hplain | ⟨other, hother⟩
  · exact absurd hlink (h.terrain.noLink hplain target)
  · rw [h.terrain.link hother] at hlink
    exact hother.trans hlink

/-- A file that may be written may change, so what stands beside it counts. -/
theorem FileAccess.immutable_of_mayWrite {access : FileAccess} (h : access.mayWrite = true) :
    access.immutable = false := by
  rw [FileAccess.mayWrite, Bool.and_eq_true, Bool.not_eq_true'] at h
  exact h.2

namespace Database

variable {db : Database} {fs fs' made files : FileSystem} {place : Location} {access : FileAccess}
  {path name : String} {names : List String} {n : Nat}

/-! ### The place of a name -/

theorem untilLink_congr (h : fs.Keeps fs') (place : Location) (names : List String) :
    untilLink fs' place names = untilLink fs place names := by
  fun_induction untilLink fs place names with
  | case1 => rfl
  | case2 place r ih => exact ih
  | case3 place r ih => exact ih
  | case4 place name r hdot hdots target hlink =>
      rw [untilLink.eq_4 _ _ _ _ hdot hdots, h.link_iff.mpr hlink]
  | case5 place name r hdot hdots hplain ih =>
      rw [untilLink.eq_4 _ _ _ _ hdot hdots]
      split
      next target hlink => exact absurd (h.link_iff.mp hlink) (hplain target)
      next => exact ih

/-- As long as links stay what they are, a name stands for the place it stood for. -/
theorem placeOf_congr (h : fs.Keeps fs') (path : String) : placeOf fs' path = placeOf fs path := by
  have hfrom : ∀ n place names, placeFrom fs' n place names = placeFrom fs n place names := by
    intro n
    induction n with
    | zero => exact fun _ _ => rfl
    | succ n ih =>
        intro place names
        rw [placeFrom, placeFrom, untilLink_congr h]
        split
        next => rfl
        next => exact ih _ _
  rw [placeOf, placeOf, h.workplace, hfrom]

/-- No link is found at a place nor above it. -/
def Bare (fs : FileSystem) (place : Location) : Prop :=
  ∀ above, above <+: place → fs.terrain.NoLink above

theorem bare_of_directory (hfs : fs.WellFormed) (h : fs.entry? place = some .directory) :
    Bare fs place := by
  rintro above ⟨more, rfl⟩
  refine Terrain.noLink_of_directory (FileSystem.found_directory_iff.mpr ?_)
  -- Upwards from the directory, one name at a time: what lies above a directory is one.
  induction more using List.reverseRecOn with
  | nil => rwa [List.append_nil] at h
  | append_singleton more name ih =>
      have habove := hfs.entry?_above h
      rw [← List.append_assoc, List.dropLast_concat] at habove
      exact ih habove

theorem Bare.dropLast (h : Bare fs place) : Bare fs place.dropLast :=
  fun above habove => h above (habove.trans (List.dropLast_prefix place))

theorem Bare.concat (h : Bare fs place) (hlink : fs.terrain.NoLink (place ++ [name])) :
    Bare fs (place ++ [name]) := by
  intro above habove
  rcases List.prefix_concat_iff.mp habove with rfl | habove
  · exact hlink
  · exact h above habove

theorem bare_untilLink (h : Bare fs place) (names : List String) :
    Bare fs (untilLink fs place names).1 := by
  fun_induction untilLink fs place names with
  | case1 => exact h
  | case2 place r ih => exact ih h
  | case3 place r ih => exact ih h.dropLast
  | case4 => exact h
  | case5 place name r hdot hdots hplain ih =>
      exact ih (h.concat (FileSystem.noLink_iff.mpr hplain))

/-- A name stands for a place where no link is found. -/
theorem noLink_of_placeOf (hfs : fs.WellFormed) (h : placeOf fs path = some place) :
    fs.terrain.NoLink place := by
  have hroot : Bare fs [] := bare_of_directory hfs rfl
  have hfrom : ∀ n start names, Bare fs start → placeFrom fs n start names = some place →
      Bare fs place := by
    intro n
    induction n with
    | zero => exact fun _ _ _ hplace => nomatch hplace
    | succ n ih =>
        intro start names hstart hplace
        -- Names are followed to the first link, and from there its target, until no link is left.
        have huntil := bare_untilLink hstart names
        rw [placeFrom] at hplace
        split at hplace
        next found heq =>
          rw [heq] at huntil
          exact Option.some.inj hplace ▸ huntil
        next found target r heq =>
          rw [heq] at huntil
          refine ih _ _ ?_ hplace
          split
          · exact hroot
          · exact huntil
  refine hfrom _ _ _ ?_ h place (List.prefix_refl place)
  split
  · exact hroot
  · exact bare_of_directory hfs hfs.workplace

/-! ### What stands beside -/

theorem beside_dropLast (place : Location) (suffix : String) :
    (beside place suffix).dropLast = place.dropLast :=
  List.dropLast_concat

/-- The places beside a database where files can come and go. If the database is held never to
change there are none. -/
def losable (place : Location) (access : FileAccess) : List Location :=
  if access.immutable then [] else suffixes.map (beside place)

/-- The files that come and go beside a database are files of their own: no way leads through them,
no two of them are one, and none is that of the database or the one whose permissions it gets. -/
structure FreeBeside (fs : FileSystem) (place : Location) (access : FileAccess) : Prop where
  deadEnd : ∀ other ∈ losable place access, fs.DeadEnd other
  apart : ∀ a ∈ place :: losable place access, ∀ b ∈ place :: losable place access,
    fs.sameFile a b → a = b
  sample : ∀ name, access.modeOf = some name → ∃ found ∉ losable place access,
    fs.locate name = .ok found ∧ fs.entry? found ≠ none

/-- The files once a log is in use. Its index stands beside it, unless a single program has the log
to itself. -/
def withIndex (place : Location) (access : FileAccess) (fs : FileSystem) : FileSystem :=
  if access.locking = .shared then fs.put (beside place indexSuffix) binary else fs

/-- What becomes of a database and its files when it looks for a log. -/
inductive FindsLog (db : Database) (place : Location) (access : FileAccess) (fs : FileSystem) :
    Database × FileSystem → Prop
  | none : counts (fs.entry? (beside place logSuffix)) = false →
    FindsLog db place access fs (db, fs)
  | used : counts (fs.entry? (beside place logSuffix)) = true → access.locking ≠ .none →
    (access.locking = .shared → ¬ fs.sameFile (beside place indexSuffix) place) →
    FindsLog db place access fs ({ db with logging := true }, withIndex place access fs)

/-- What becomes of a database and its files when it looks at what stands beside its file. -/
inductive FindsBeside (db : Database) (place : Location) (access : FileAccess) (fs : FileSystem) :
    Database × FileSystem → Prop
  | ignored : access.immutable = true → FindsBeside db place access fs (db, fs)
  | kept {found : Database × FileSystem} : access.immutable = false →
    isHot (fs.entry? (beside place journalSuffix)) = false → FindsLog db place access fs found →
    FindsBeside db place access fs found
  | cleared {found : Database × FileSystem} : access.immutable = false →
    isHot (fs.entry? (beside place journalSuffix)) = true →
    FindsLog db place access (fs.drop (beside place journalSuffix)) found →
    FindsBeside db place access fs found

variable {found : Database × FileSystem}

theorem findsLog_of_useLog (h : db.useLog place access fs = found)
    (hfit : ∀ detail, found.1.condition ≠ .spoiled detail) : FindsLog db place access fs found := by
  subst h
  unfold useLog at hfit ⊢
  dsimp only at hfit ⊢
  -- The log is not there, cannot be used, cannot be shared, is shared, or is used alone.
  split_ifs at hfit ⊢ with hlog hblocked hshared hover
  · exact .none (by simpa using hlog)
  · exact absurd rfl (hfit _)
  · exact absurd rfl (hfit _)
  · have hlocking : access.locking ≠ .none := fun hc => nomatch hc.symm.trans hshared
    have hused : FindsLog db place access fs _ :=
      .used (by simpa using hlog) hlocking fun _ => hover
    rwa [withIndex, if_pos hshared] at hused
  · have hlocking : access.locking ≠ .none := fun hc => hblocked (by
      rw [hc]
      rfl)
    have hused : FindsLog db place access fs _ :=
      .used (by simpa using hlog) hlocking fun hc => absurd hc hshared
    rwa [withIndex, if_neg hshared] at hused

/-- Unless something was in the way, what stands beside a file did not count, or the journal has
been cleared away if need be, and the log was looked for. -/
theorem findsBeside_of_observeBeside (h : db.observeBeside place access fs = found)
    (hfit : ∀ detail, found.1.condition ≠ .spoiled detail) :
    FindsBeside db place access fs found := by
  unfold observeBeside at h
  dsimp only at h
  split_ifs at h with himmutable hdir hhot hleft
  · exact h ▸ .ignored himmutable
  · exact absurd rfl (h ▸ hfit _)
  · exact absurd rfl (h ▸ hfit _)
  · exact .cleared (by simpa using himmutable) hleft (findsLog_of_useLog h hfit)
  · exact .kept (by simpa using himmutable) (by simpa using hleft) (findsLog_of_useLog h hfit)

theorem beside_mem_losable (hcounts : access.immutable = false) {suffix : String}
    (hsuffix : suffix ∈ suffixes) : beside place suffix ∈ losable place access := by
  rw [losable, if_neg (Bool.eq_false_iff.mp hcounts)]
  exact List.mem_map_of_mem hsuffix

namespace FreeBeside

variable {suffix suffix' : String}

theorem deadEnd_beside (h : FreeBeside fs place access) (hcounts : access.immutable = false)
    (hsuffix : suffix ∈ suffixes) : fs.DeadEnd (beside place suffix) :=
  h.deadEnd _ (beside_mem_losable hcounts hsuffix)

theorem apart_beside (h : FreeBeside fs place access) (hcounts : access.immutable = false)
    (hsuffix : suffix ∈ suffixes) (hsuffix' : suffix' ∈ suffixes) (hne : suffix ≠ suffix') :
    ¬ fs.sameFile (beside place suffix) (beside place suffix') := fun hsame =>
  hne (beside_inj.mp (h.apart _ (List.mem_cons_of_mem _ (beside_mem_losable hcounts hsuffix))
    _ (List.mem_cons_of_mem _ (beside_mem_losable hcounts hsuffix')) hsame))

theorem apart_place (h : FreeBeside fs place access) (hcounts : access.immutable = false)
    (hsuffix : suffix ∈ suffixes) : ¬ fs.sameFile place (beside place suffix) := by
  have hne : suffix ≠ "" := by
    rintro rfl
    exact absurd hsuffix (by decide)
  exact fun hsame => hne (eq_beside_iff.mp (h.apart _ List.mem_cons_self _
    (List.mem_cons_of_mem _ (beside_mem_losable hcounts hsuffix)) hsame)).1

/-- What becomes of the files beside a database leaves them files of their own. -/
theorem refiles (h : FreeBeside fs place access) (hfiles : fs.Refiles (losable place access) fs') :
    FreeBeside fs' place access where
  deadEnd other hother := hfiles.deadEnd (h.deadEnd other hother)
  apart a ha b hb hsame := (hfiles.sameFile hsame).elim id (h.apart a ha b hb)
  sample name hname := by
    obtain ⟨found, hstays, hfound, hentry⟩ := h.sample name hname
    exact ⟨found, hstays, hfiles.keeps.locate hfound, hfiles.stays hstays hentry⟩

theorem refiles_drop (h : FreeBeside fs place access) (hcounts : access.immutable = false)
    (hsuffix : suffix ∈ suffixes) :
    fs.Refiles (losable place access) (fs.drop (beside place suffix)) :=
  .drop (h.deadEnd_beside hcounts hsuffix) (beside_mem_losable hcounts hsuffix)

/-- The file whose permissions a new file gets is not missing. -/
theorem lacksSample_eq (h : FreeBeside fs place access) : lacksSample fs access = false := by
  unfold lacksSample
  split
  next name hname =>
    obtain ⟨found, _, hlocate, hentry⟩ := h.sample name hname
    obtain ⟨entry, hentry⟩ := Option.ne_none_iff_exists'.mp hentry
    rw [FileSystem.contains, FileSystem.find, hlocate]
    dsimp only
    rw [hentry]
    rfl
  next => rfl

end FreeBeside

theorem isFile_binary : FileSystem.IsFile binary :=
  ⟨fun hc => (nomatch hc), fun _ hc => nomatch hc⟩

theorem isFile_database (rows : List (String × String)) : FileSystem.IsFile (.database rows) :=
  ⟨fun hc => (nomatch hc), fun _ hc => nomatch hc⟩

theorem entry?_withIndex {other : Location}
    (h : access.locking = .shared → ¬ fs.sameFile (beside place indexSuffix) other) :
    FileSystem.entry? (withIndex place access fs) other = fs.entry? other := by
  unfold withIndex
  split
  next hshared => rw [FileSystem.entry?_put (beside_ne_nil _ _), if_neg (h hshared)]
  next => rfl

theorem refiles_withIndex {gone : List Location} (hindex : fs.DeadEnd (beside place indexSuffix))
    (habove : fs.entry? place.dropLast = some .directory) :
    fs.Refiles gone (withIndex place access fs) := by
  unfold withIndex
  split
  · exact .put hindex ((beside_dropLast place _).symm ▸ habove) isFile_binary
  · exact .refl fs

theorem FindsLog.refiles {gone : List Location} (h : FindsLog db place access fs found)
    (hindex : fs.DeadEnd (beside place indexSuffix))
    (habove : fs.entry? place.dropLast = some .directory) : fs.Refiles gone found.2 := by
  cases h with
  | none => exact .refl fs
  | used => exact refiles_withIndex hindex habove

/-- To look at what stands beside a file does nothing but to files. -/
theorem FindsBeside.refiles (h : FindsBeside db place access fs found)
    (hfree : FreeBeside fs place access) (habove : fs.entry? place.dropLast = some .directory) :
    fs.Refiles (losable place access) found.2 := by
  cases h with
  | ignored => exact .refl fs
  | kept hcounts _ hlog => exact hlog.refiles (hfree.deadEnd_beside hcounts (by decide)) habove
  | cleared hcounts _ hlog =>
      have hdrop : fs.Refiles (losable place access) (fs.drop (beside place journalSuffix)) :=
        hfree.refiles_drop hcounts (by decide)
      exact hdrop.trans (hlog.refiles (hdrop.deadEnd (hfree.deadEnd_beside hcounts (by decide)))
        (hdrop.keeps.directory habove))

theorem FindsLog.entry?_place (h : FindsLog db place access fs found) :
    FileSystem.entry? found.2 place = fs.entry? place := by
  cases h with
  | none => rfl
  | used _ _ hover => exact entry?_withIndex hover

/-- To look at what stands beside a file leaves the file alone. -/
theorem FindsBeside.entry?_eq (h : FindsBeside db place access fs found) :
    FileSystem.entry? found.2 place = fs.entry? place := by
  cases h with
  | ignored => rfl
  | kept _ _ hlog => exact hlog.entry?_place
  | cleared _ _ hlog =>
      simp [hlog.entry?_place]

/-- What stands beside a database is what it takes it for: no journal is left over, and there is a
log if one is in use. -/
def Quiet (db : Database) (place : Location) (access : FileAccess) (fs : FileSystem) : Prop :=
  access.immutable = true ∧ db.logging = false ∨
    access.immutable = false ∧ isHot (fs.entry? (beside place journalSuffix)) = false ∧
      counts (fs.entry? (beside place logSuffix)) = db.logging ∧
      (db.logging = true → access.locking ≠ .none)

theorem FindsLog.quiet (h : FindsLog db place access fs found) (hfree : FreeBeside fs place access)
    (hlogging : db.logging = false) (hcounts : access.immutable = false)
    (hjournal : isHot (fs.entry? (beside place journalSuffix)) = false) :
    found.1.Quiet place access found.2 := by
  cases h with
  | none hlog =>
      exact .inr ⟨hcounts, hjournal, hlog.trans hlogging.symm,
        fun hc => nomatch hlogging.symm.trans hc⟩
  | used hlog hlocking =>
      -- The index that has been written is neither the journal nor the log.
      have hindex : ∀ {suffix}, suffix ∈ suffixes → indexSuffix ≠ suffix →
          ¬ fs.sameFile (beside place indexSuffix) (beside place suffix) :=
        hfree.apart_beside hcounts (by decide)
      refine .inr ⟨hcounts, ?_, ?_, fun _ => hlocking⟩
      · rw [entry?_withIndex fun _ => hindex (by decide) (by decide), hjournal]
      · rw [entry?_withIndex fun _ => hindex (by decide) (by decide), hlog]

theorem FindsBeside.quiet (h : FindsBeside db place access fs found)
    (hfree : FreeBeside fs place access) (hlogging : db.logging = false) :
    found.1.Quiet place access found.2 := by
  cases h with
  | ignored himmutable => exact .inl ⟨himmutable, hlogging⟩
  | kept hcounts hjournal hlog => exact hlog.quiet hfree hlogging hcounts hjournal
  | cleared hcounts _ hlog =>
      have hdrop : fs.Refiles (losable place access) (fs.drop (beside place journalSuffix)) :=
        hfree.refiles_drop hcounts (by decide)
      -- The journal is gone, so it is not hot.
      exact hlog.quiet (hfree.refiles hdrop) hlogging hcounts (by simp [isHot, counts])

/-- All that is learnt beside a file is whether there is a log. -/
theorem FindsBeside.fst_eq (h : FindsBeside db place access fs found) :
    found.1 = { db with logging := found.1.logging } := by
  cases h with
  | ignored => rfl
  | kept _ _ hlog => cases hlog <;> rfl
  | cleared _ _ hlog => cases hlog <;> rfl

/-! ### Databases that are kept -/

/-- A path leads to the file of a database, the directories above it are there, and the files beside
it are files of their own. -/
structure Leads (fs : FileSystem) (path : String) (place : Location) (access : FileAccess) :
    Prop where
  wellFormed : fs.WellFormed
  name : ∃ name, DatabaseName.ofText path = .file name access ∧ placeOf fs name = some place
  above : (Path.parent? path).getD "" = "" ∨
    fs.isDirectory ((Path.parent? path).getD "") = true
  size : placeSize place ≤ pathLimit
  free : FreeBeside fs place access

/-- What becomes of files leaves a path leading where it led. -/
theorem Leads.refiles (h : Leads fs path place access)
    (hfiles : fs.Refiles (losable place access) fs') :
    Leads fs' path place access where
  wellFormed := hfiles.wellFormed h.wellFormed
  name := by
    obtain ⟨name, hname, hplace⟩ := h.name
    exact ⟨name, hname, (placeOf_congr hfiles.keeps name).trans hplace⟩
  above := by
    refine h.above.imp_right fun hdirectory => ?_
    obtain ⟨dir, hlocate, hdir⟩ := FileSystem.isDirectory_iff.mp hdirectory
    exact FileSystem.isDirectory_iff.mpr
      ⟨dir, hfiles.keeps.locate hlocate, hfiles.keeps.directory hdir⟩
  size := h.size
  free := h.free.refiles hfiles

/-- An open database is kept in a file: its path leads there, its table is there, and nothing beside
it is in the way. -/
structure Kept (db : Database) (fs : FileSystem) (place : Location) (access : FileAccess) :
    Prop where
  leads : Leads fs db.path place access
  keeping : db.keeping = .file place access
  table : fs.entry? place = some (.database db.table.rows)
  sound : db.condition = .sound
  settled : db.changed = false
  quiet : db.Quiet place access fs

/-- A database with a table, as it is before what stands beside its file has been looked at. -/
def unlooked (path : String) (place : Location) (access : FileAccess)
    (rows : List (String × String)) : Database :=
  ⟨path, .file place access, ⟨rows⟩, .sound, false, false⟩

variable {rows : List (String × String)}

theorem kept_of_findsBeside (hleads : Leads fs path place access)
    (htable : fs.entry? place = some (.database rows))
    (h : FindsBeside (unlooked path place access rows) place access fs found) :
    Kept found.1 found.2 place access := by
  have hfiles : fs.Refiles (losable place access) found.2 :=
    h.refiles hleads.free (hleads.wellFormed.entry?_above htable)
  have hquiet := h.quiet hleads.free rfl
  have hplace := h.entry?_eq.trans htable
  rw [h.fst_eq] at hquiet ⊢
  exact ⟨hleads.refiles hfiles, rfl, hplace, rfl, rfl, hquiet⟩

/-- Opening a file with a table comes to looking at what stands beside it. -/
theorem Leads.openAt_eq (h : Leads fs path place access)
    (htable : fs.entry? place = some (.database rows))
    (hfound : (unlooked path place access rows).observeBeside place access fs = (db, files))
    (hsound : db.condition = .sound) : openAt fs path = (.ok db, files) := by
  obtain ⟨name, hname, hplace⟩ := h.name
  have hobserve : Database.observe ⟨path, .file place access, .empty, .gone, false, false⟩ fs =
      (db, files) := by
    rw [observe_file rfl rfl, htable]
    exact hfound
  unfold openAt openNamed openFile openFound
  simp only [h.wellFormed.makeDirectories_of_isDirectory h.above, hname, hplace,
    Nat.not_lt_of_le h.size, h.free.lacksSample_eq, htable, hobserve, hsound, if_false,
    Bool.false_eq_true]

/-! ### Closing and opening again -/

/-- Nothing beside a file is in the way: no journal is left over, and if there is a log it can be
used. -/
def Clear (fs : FileSystem) (place : Location) (access : FileAccess) : Prop :=
  access.immutable = true ∨ isHot (fs.entry? (beside place journalSuffix)) = false ∧
    (counts (fs.entry? (beside place logSuffix)) = true → access.locking ≠ .none)

theorem Clear.observeBeside_condition (h : Clear fs place access)
    (hfree : FreeBeside fs place access) (db : Database) :
    (db.observeBeside place access fs).1.condition = db.condition := by
  by_cases himmutable : access.immutable = true
  · rw [observeBeside, if_pos himmutable]
  · have hcounts : access.immutable = false := Bool.eq_false_iff.mpr himmutable
    obtain ⟨hjournal, hlocking⟩ := h.resolve_left himmutable
    have hfile : ∀ suffix ∈ suffixes,
        ¬ (fs.entry? (beside place suffix) == some .directory) = true := fun suffix hsuffix hc =>
      (hfree.deadEnd_beside hcounts hsuffix).not_directory (beq_iff_eq.mp hc)
    rw [observeBeside, if_neg himmutable, if_neg (hfile _ (by decide)), hjournal,
      Bool.false_and, if_neg Bool.false_ne_true, if_neg Bool.false_ne_true]
    unfold useLog
    dsimp only
    split_ifs with hlog hblocked hshared hover
    · rfl
    · rw [Bool.or_eq_true, decide_eq_true_eq] at hblocked
      -- Without locking the log could not be used, and a directory is no file of its own.
      rcases hblocked with hnone | hdir
      · exact absurd hnone (hlocking (by simpa using hlog))
      · exact absurd hdir (hfile _ (by decide))
    · rw [FileSystem.sameFile_comm] at hover
      exact absurd hover (hfree.apart_place hcounts (by decide))
    · rfl
    · rfl

/-- With nothing in the way, a database with a table finds what stands beside its file. -/
theorem Clear.findsBeside (h : Clear fs place access) (hfree : FreeBeside fs place access)
    (hsound : db.condition = .sound) :
    FindsBeside db place access fs (db.observeBeside place access fs) :=
  findsBeside_of_observeBeside rfl fun _ hc =>
    nomatch hsound.symm.trans ((h.observeBeside_condition hfree db).symm.trans hc)

theorem FreeBeside.refiles_dropFile (h : FreeBeside fs place access)
    (hcounts : access.immutable = false) {suffix : String} (hsuffix : suffix ∈ suffixes) :
    fs.Refiles (losable place access) (dropFile fs (beside place suffix)) := by
  rw [dropFile,
    if_neg fun hc => (h.deadEnd_beside hcounts hsuffix).not_directory (beq_iff_eq.mp hc)]
  exact h.refiles_drop hcounts hsuffix

namespace Kept

theorem deadEnd (h : Kept db fs place access) : fs.DeadEnd place :=
  .of_file h.table (isFile_database _)

theorem above (h : Kept db fs place access) : fs.entry? place.dropLast = some .directory :=
  h.leads.wellFormed.entry?_above h.table

/-- A database that uses a log looks at what stands beside its file. -/
theorem counts_of_logging (h : Kept db fs place access) (hlogging : db.logging = true) :
    access.immutable = false := by
  rcases h.quiet with ⟨_, hunlogged⟩ | ⟨hcounts, _⟩
  · exact nomatch hlogging.symm.trans hunlogged
  · exact hcounts

theorem close_eq (h : Kept db fs place access) :
    db.close fs = if db.logging && access.writable then
      (fs.drop (beside place logSuffix)).drop (beside place indexSuffix) else fs := by
  rw [close, h.keeping]

/-- To close a database removes its log at most. -/
theorem refiles_close (h : Kept db fs place access) :
    fs.Refiles (losable place access) (db.close fs) := by
  rw [h.close_eq]
  split
  next hlast =>
    -- Both files are removed, the index from what is left after the log.
    have hcounts := h.counts_of_logging (Bool.and_eq_true_iff.mp hlast).1
    have hlog : fs.Refiles (losable place access) (fs.drop (beside place logSuffix)) :=
      h.leads.free.refiles_drop hcounts (by decide)
    exact hlog.trans ((h.leads.free.refiles hlog).refiles_drop hcounts (by decide))
  next => exact .refl fs

theorem entry?_close {other : Location} (h : Kept db fs place access)
    (hlog : other ≠ beside place logSuffix) (hindex : other ≠ beside place indexSuffix) :
    FileSystem.entry? (db.close fs) other = fs.entry? other := by
  rw [h.close_eq]
  split
  next => simp [hindex, hlog]
  next => rfl

/-- A log that is left when a database has been closed was left since nothing may be written. -/
theorem locking_of_close (h : Kept db fs place access) (hcounts : access.immutable = false)
    (hlog : counts (FileSystem.entry? (db.close fs) (beside place logSuffix)) = true) :
    access.locking ≠ .none := by
  obtain ⟨himmutable, _⟩ | ⟨_, _, hfound, hlocking⟩ := h.quiet
  · exact nomatch hcounts.symm.trans himmutable
  · rw [h.close_eq] at hlog
    split at hlog
    next => simp [counts] at hlog
    next => exact hlocking (hfound.symm.trans hlog)

theorem clear (h : Kept db fs place access) : Clear fs place access := by
  obtain ⟨himmutable, _⟩ | ⟨_, hjournal, hlog, hlocking⟩ := h.quiet
  · exact .inl himmutable
  · exact .inr ⟨hjournal, fun hcounts => hlocking (hlog.symm.trans hcounts)⟩

/-- A database that has been closed has nothing in its way either. -/
theorem clear_close (h : Kept db fs place access) : Clear (db.close fs) place access := by
  obtain ⟨himmutable, _⟩ | ⟨hcounts, hjournal, _⟩ := h.quiet
  · exact .inl himmutable
  · refine .inr ⟨?_, h.locking_of_close hcounts⟩
    rw [h.entry?_close (by simp) (by simp), hjournal]

/-- Where no log is in use, what stands beside the file is left as it is. -/
theorem observeBeside_eq (h : Kept db fs place access) (hlogging : db.logging = false) :
    db.observeBeside place access fs = (db, fs) := by
  have hfinds := h.clear.findsBeside h.leads.free h.sound
  -- Of the ways to find what stands beside, only those are open that find it as it was.
  generalize db.observeBeside place access fs = found at hfinds ⊢
  obtain ⟨himmutable, _⟩ | ⟨hcounts, hjournal, hlog, _⟩ := h.quiet
  · cases hfinds with
    | ignored => rfl
    | kept hcounts => exact nomatch hcounts.symm.trans himmutable
    | cleared hcounts => exact nomatch hcounts.symm.trans himmutable
  · cases hfinds with
    | ignored himmutable => exact nomatch hcounts.symm.trans himmutable
    | cleared _ hhot => exact nomatch hjournal.symm.trans hhot
    | kept _ _ hfindsLog =>
        cases hfindsLog with
        | none => rfl
        | used hused => exact nomatch hused.symm.trans (hlog.trans hlogging)

/-- A database that is kept shows nothing new when it is looked at. -/
theorem observe_eq (h : Kept db fs place access) : db.observe fs = (db, fs) := by
  cases hlogging : db.logging with
  | true => exact observe_logging hlogging fs
  | false =>
      have hsame : ({ db with table := ⟨db.table.rows⟩, condition := .sound } : Database) = db := by
        rw [← h.sound]
      rw [observe_file h.keeping hlogging, h.table]
      exact (congrArg (observeBeside · place access fs) hsame).trans (h.observeBeside_eq hlogging)

/-- Where no log is in use, the database can be opened a second time, and closed again, as it is. -/
theorem openAt_eq (h : Kept db fs place access) (hlogging : db.logging = false) :
    openAt fs db.path = (.ok db, fs) := by
  have hsame : unlooked db.path place access db.table.rows = db := by
    obtain ⟨path, keeping, table, condition, changed, logging⟩ := db
    obtain rfl : keeping = .file place access := h.keeping
    obtain rfl : condition = .sound := h.sound
    obtain rfl : changed = false := h.settled
    obtain rfl : logging = false := hlogging
    rfl
  refine h.leads.openAt_eq h.table ?_ h.sound
  rw [hsame]
  exact h.observeBeside_eq hlogging

/-- A database that is kept can be closed and opened again. Its table is the same, and all that can
have changed is whether it uses a log. -/
theorem reopen (h : Kept db fs place access) :
    ∃ logging files, openAt (db.close fs) db.path = (.ok { db with logging }, files) ∧
      Kept { db with logging } files place access := by
  have hleads := h.leads.refiles h.refiles_close
  have htable : FileSystem.entry? (db.close fs) place = some (.database db.table.rows) :=
    (h.entry?_close (by simp) (by simp)).trans h.table
  have hfinds : FindsBeside (unlooked db.path place access db.table.rows) place access _ _ :=
    h.clear_close.findsBeside hleads.free rfl
  -- It is found again with the table and without anything in the way, so what is left to see is
  -- whether there still is a log.
  generalize hfound : (unlooked db.path place access db.table.rows).observeBeside place access
    (db.close fs) = found at hfinds
  have hsame : found.1 = { db with logging := found.1.logging } := by
    rw [hfinds.fst_eq, unlooked, ← h.keeping, ← h.settled, ← h.sound]
  have hkept := kept_of_findsBeside hleads htable hfinds
  have hopen := hleads.openAt_eq htable hfound hkept.sound
  rw [hsame] at hkept hopen
  exact ⟨found.1.logging, found.2, hopen, hkept⟩

theorem refiles_put (h : Kept db fs place access) (table : Table) :
    fs.Refiles (losable place access) (fs.put place (.database table.rows)) :=
  .put h.deadEnd h.above (isFile_database _)

theorem entry?_put (h : Kept db fs place access) (table : Table) :
    FileSystem.entry? (fs.put place (.database table.rows)) place =
      some (.database table.rows) := by
  simp [h.deadEnd.ne_nil]

/-- A table that is written does not come into the files beside its own. -/
theorem entry?_put_beside (h : Kept db fs place access) (hcounts : access.immutable = false)
    (table : Table) {suffix : String} (hsuffix : suffix ∈ suffixes) :
    FileSystem.entry? (fs.put place (.database table.rows)) (beside place suffix) =
      fs.entry? (beside place suffix) := by
  simp [h.deadEnd.ne_nil, h.leads.free.apart_place hcounts hsuffix]

/-- With a log in use, a table is written to the file and to the log. -/
theorem written_logged (h : Kept db fs place access) (hlogging : db.logging = true)
    (table : Table) :
    Kept { db with table := table, changed := false }
      ((fs.put place (.database table.rows)).put (beside place logSuffix) binary) place access := by
  have hcounts := h.counts_of_logging hlogging
  obtain ⟨himmutable, _⟩ | ⟨_, hcold, _, hlocking⟩ := h.quiet
  · exact nomatch hcounts.symm.trans himmutable
  · have hput := h.refiles_put table
    have hfree := h.leads.free.refiles hput
    have hlog : (fs.put place (.database table.rows)).DeadEnd (beside place logSuffix) :=
      hfree.deadEnd_beside hcounts (by decide)
    have hfiles := hput.trans (.put hlog
      ((beside_dropLast place logSuffix).symm ▸ hput.keeps.directory h.above) isFile_binary)
    refine ⟨h.leads.refiles hfiles, h.keeping, ?_, h.sound, rfl,
      .inr ⟨hcounts, ?_, ?_, fun _ => hlocking hlogging⟩⟩
    · -- The table is read back, since the log is another file.
      rw [FileSystem.entry?_put (beside_ne_nil _ _), FileSystem.sameFile_comm,
        if_neg (hfree.apart_place hcounts (by decide)), h.entry?_put]
    · rw [FileSystem.entry?_put (beside_ne_nil _ _),
        if_neg (hfree.apart_beside hcounts (by decide) (by decide) (by decide)),
        h.entry?_put_beside hcounts table (by decide), hcold]
    · -- The log that has been written counts.
      simp [counts, binary, hlogging]

/-- Without a log, a table is written to the file, and no journal is left of this. -/
theorem written_unlogged (h : Kept db fs place access) (hcounts : access.immutable = false)
    (hlogging : db.logging = false) (table : Table) :
    Kept { db with table := table, changed := false }
      (dropFile (fs.put place (.database table.rows)) (beside place journalSuffix)) place
      access := by
  obtain ⟨himmutable, _⟩ | ⟨_, _, hlogged, _⟩ := h.quiet
  · exact nomatch hcounts.symm.trans himmutable
  · have hput := h.refiles_put table
    have hfree := h.leads.free.refiles hput
    have hjournal : (fs.put place (.database table.rows)).DeadEnd (beside place journalSuffix) :=
      hfree.deadEnd_beside hcounts (by decide)
    have hfiles : fs.Refiles (losable place access)
        (dropFile (fs.put place (.database table.rows)) (beside place journalSuffix)) :=
      hput.trans (hfree.refiles_dropFile hcounts (by decide))
    refine ⟨h.leads.refiles hfiles, h.keeping, ?_, h.sound, rfl,
      .inr ⟨hcounts, ?_, ?_, fun hc => nomatch hlogging.symm.trans hc⟩⟩
    · simp [h.deadEnd.ne_nil]
    · rw [entry?_dropFile (beside_ne_nil _ _), if_pos ⟨rfl, hjournal.not_directory⟩]
      rfl
    · rw [entry?_dropFile (beside_ne_nil _ _), if_neg (by simp),
        h.entry?_put_beside hcounts table (by decide), hlogged]

/-- What is changed in a database and written back leaves it kept. -/
theorem commit (h : Kept db fs place access) (change : Change) :
    Kept ((change.next db).commit fs).1 ((change.next db).commit fs).2 place access := by
  rcases next_cases db change with hnext | ⟨husable, table, hnext⟩
  · rw [hnext, commit_unchanged h.settled]
    exact h
  · have hmay : access.mayWrite = true := by
      have hmay := husable.mayWrite
      rwa [Database.mayWrite, h.keeping] at hmay
    -- Where it is kept decides how it is written back.
    generalize hchanged : { db with table := table, changed := true } = written at hnext
    have hkeeping : written.keeping = .file place access := hchanged ▸ h.keeping
    rw [hnext, commit_file hkeeping (hchanged ▸ rfl), ← hchanged]
    dsimp only
    split
    next hlogging => exact h.written_logged hlogging table
    next hlogging =>
      exact h.written_unlogged (FileAccess.immutable_of_mayWrite hmay)
        (Bool.eq_false_iff.mpr hlogging) table

end Kept

/-! ### The first opening -/

/-- A database of which nothing has been looked at. -/
def untouched (path : String) (place : Location) (access : FileAccess) : Database :=
  ⟨path, .file place access, .empty, .gone, false, false⟩

/-- What a database finds that has not been looked at before, unless something is in the way: a
table, a file without one, or no file. -/
inductive Finds (path : String) (place : Location) (access : FileAccess) (start : FileSystem) :
    Database × FileSystem → Prop
  | table {found : Database × FileSystem} (rows : List (String × String)) :
    start.entry? place = some (.database rows) →
    FindsBeside (unlooked path place access rows) place access start found →
    Finds path place access start found
  | empty {found : Database × FileSystem} :
    (∀ rows, start.entry? place ≠ some (.database rows)) →
    (untouched path place access).observeEmpty place access start = found →
    found.1.condition = .empty → Finds path place access start found
  | nothing : (∀ entry, start.entry? place = some entry → ∃ target, entry = .link target) →
    Finds path place access start ({ untouched path place access with condition := .gone }, start)

/-- An empty file is found to be one, unless something beside it is in the way. -/
theorem condition_of_observeEmpty
    (h : ∀ detail, (db.observeEmpty place access fs).1.condition ≠ .spoiled detail) :
    (db.observeEmpty place access fs).1.condition = .empty := by
  rw [observeEmpty_eq] at h ⊢
  split_ifs at h ⊢
  · rfl
  · rfl
  · exact absurd rfl (h _)
  · rfl

theorem finds_of_observe {start : FileSystem}
    (hobserve : (untouched path place access).observe start = found)
    (hfit : ∀ detail, found.1.condition ≠ .spoiled detail) :
    Finds path place access start found := by
  -- Two of the endings are reached from texts and from octets alike.
  have hempty : (∀ rows, start.entry? place ≠ some (.database rows)) →
      (untouched path place access).observeEmpty place access start = found →
      Finds path place access start found := by
    intro hnone hfound
    refine .empty hnone hfound ?_
    subst hfound
    exact condition_of_observeEmpty hfit
  have hforeign : ({ untouched path place access with
      condition := .spoiled "file is not a database" } : Database).observeBeside place access start
        = found → False := by
    intro hfound
    have hsame := (findsBeside_of_observeBeside hfound hfit).fst_eq
    exact hfit _ (congrArg Database.condition hsame)
  rw [observe_file rfl rfl] at hobserve
  rcases hentry : start.entry? place with _ | entry
  · rw [hentry] at hobserve
    exact hobserve ▸ .nothing fun _ hc => nomatch hentry.symm.trans hc
  · rw [hentry] at hobserve
    have hnone : (∀ rows, entry ≠ .database rows) →
        ∀ rows, start.entry? place ≠ some (.database rows) :=
      fun hne rows hc => hne rows (Option.some.inj (hentry.symm.trans hc))
    cases entry with
    | directory => exact absurd (congrArg (fun f => f.1.condition) hobserve.symm) (hfit _)
    | link target =>
        refine hobserve ▸ .nothing fun other hc => ⟨target, ?_⟩
        exact (Option.some.inj (hentry.symm.trans hc)).symm
    | database rows => exact .table rows hentry (findsBeside_of_observeBeside hobserve hfit)
    | text content =>
        dsimp only [Finding.ofEntry] at hobserve
        split at hobserve
        · exact hempty (hnone fun _ hc => nomatch hc) hobserve
        · exact (hforeign hobserve).elim
    | octets content =>
        dsimp only [Finding.ofEntry] at hobserve
        split at hobserve
        · exact hempty (hnone fun _ hc => nomatch hc) hobserve
        · exact (hforeign hobserve).elim

/-- How a file has been opened: it held a table, or it held none and one was made in it. -/
inductive Opens (path : String) (place : Location) (access : FileAccess) (start : FileSystem)
    (db : Database) (files : FileSystem) : Prop
  | table (rows : List (String × String)) : start.entry? place = some (.database rows) →
    FindsBeside (unlooked path place access rows) place access start (db, files) →
    Opens path place access start db files
  | made (entry : Entry) (emptied : Database) (cleared : FileSystem) :
    start.entry? place = some entry → FileSystem.IsFile entry →
    (untouched path place access).observeEmpty place access start = (emptied, cleared) →
    emptied.condition = .empty → emptied.fill place access cleared = (.ok db, files) →
    Opens path place access start db files

/-- Where a file is found it is opened in one of these ways, or not at all. -/
theorem opens_of_observe {start : FileSystem} {entry : Entry}
    (hentry : start.entry? place = some entry) (hfile : FileSystem.IsFile entry)
    (hobserve : (untouched path place access).observe start = found)
    (h : (match found.1.condition with
      | .sound => (.ok found.1, found.2)
      | .spoiled detail => (.error (.refused detail), found.2)
      | _ => found.1.fill place access found.2) = (Except.ok (ε := StoreFault) db, files)) :
    Opens path place access start db files := by
  have hfit : ∀ detail, found.1.condition ≠ .spoiled detail := by
    intro detail hc
    rw [hc] at h
    exact nomatch (Prod.mk.inj h).1
  -- What has been found decides what is done with it.
  cases finds_of_observe hobserve hfit with
  | table rows htable hfinds =>
      have hsound : found.1.condition = .sound := congrArg Database.condition hfinds.fst_eq
      rw [hsound] at h
      obtain ⟨hdb, rfl⟩ := Prod.mk.inj h
      exact .table rows htable (Except.ok.inj hdb ▸ hfinds)
  | empty _ hempty hcondition =>
      rw [hcondition] at h
      exact .made entry found.1 found.2 hentry hfile hempty hcondition h
  | nothing hnothing =>
      obtain ⟨target, hlink⟩ := hnothing entry hentry
      exact absurd hlink (hfile.ne_link target)

theorem openFile_cases (h : openFile fs path place access = (.ok db, files)) :
    placeSize place ≤ pathLimit ∧ openFound fs path place access = (.ok db, files) := by
  unfold openFile at h
  split_ifs at h with hsize hsample
  · exact nomatch (Prod.mk.inj h).1
  · exact nomatch (Prod.mk.inj h).1
  · exact ⟨Nat.le_of_not_lt hsize, h⟩

/-- Opening what is found at a place comes to one of these ways, after an empty file has been put
there if there was none. -/
theorem opens_of_openFound (hlink : made.terrain.NoLink place)
    (h : openFound made path place access = (.ok db, files)) :
    ∃ start : FileSystem, made.Refiles (losable place access) start ∧
      Opens path place access start db files := by
  have htext : FileSystem.IsFile (.text "") := ⟨fun hc => (nomatch hc), fun _ hc => nomatch hc⟩
  unfold openFound at h
  dsimp only at h
  split at h
  next => exact nomatch (Prod.mk.inj h).1
  next entry hdir hentry =>
    -- What is found and is neither a directory nor a link is a file.
    have hfile : FileSystem.IsFile entry :=
      ⟨hdir,
        fun target hc => FileSystem.noLink_iff.mp hlink target (hentry.trans (congrArg some hc))⟩
    exact ⟨made, .refl made, opens_of_observe hentry hfile rfl h⟩
  next habsent =>
    split at h
    next hcreate =>
      -- Where nothing is found an empty file is put first.
      have habove : made.entry? place.dropLast = some .directory :=
        beq_iff_eq.mp (Bool.and_eq_true_iff.mp hcreate).2
      have hput : made.Refiles (losable place access) (made.put place (.text "")) :=
        .put (.of_absent habsent) habove htext
      have hentry : FileSystem.entry? (made.put place (.text "")) place = some (.text "") := by
        simp [FileSystem.ne_nil_of_absent habsent]
      exact ⟨_, hput, opens_of_observe hentry htext rfl h⟩
    next => exact nomatch (Prod.mk.inj h).1

theorem fill_cases {emptied : Database} (h : emptied.fill place access fs = (.ok db, files)) :
    access.mayWrite = true ∧ db = { emptied with table := .empty, condition := .sound } ∧
      files = (fs.drop (beside place journalSuffix)).put place (.database []) := by
  unfold fill at h
  dsimp only at h
  split at h
  next => exact nomatch (Prod.mk.inj h).1
  next hmay =>
    split at h
    next => exact nomatch (Prod.mk.inj h).1
    next =>
      obtain ⟨hdb, hfiles⟩ := Prod.mk.inj h
      exact ⟨by simpa using hmay, (Except.ok.inj hdb).symm, hfiles.symm⟩

/-- A file without a table is looked at, and what stands beside it is removed if it counts. -/
theorem refiles_observeEmpty (hfree : FreeBeside fs place access)
    (hcounts : access.immutable = false) {emptied : Database}
    (h : db.observeEmpty place access fs = (emptied, fs')) (hempty : emptied.condition = .empty) :
    fs.Refiles (losable place access) fs' ∧ emptied = { db with condition := .empty } ∧
      counts (fs'.entry? (beside place logSuffix)) = false := by
  -- Of an empty database only what stands beside it can have changed.
  have hjournal : fs.Refiles (losable place access) (withoutJournal place access fs) := by
    unfold withoutJournal
    split
    · exact hfree.refiles_dropFile hcounts (by decide)
    · exact .refl fs
  rw [observeEmpty_eq, if_neg (Bool.eq_false_iff.mp hcounts)] at h
  split_ifs at h with hlog hdir
  · obtain ⟨rfl, rfl⟩ := Prod.mk.inj h
    exact ⟨hjournal, rfl, by simpa using hlog⟩
  · obtain ⟨rfl, rfl⟩ := Prod.mk.inj h
    exact nomatch hempty
  · obtain ⟨rfl, rfl⟩ := Prod.mk.inj h
    refine ⟨hjournal.trans ((hfree.refiles hjournal).refiles_drop hcounts (by decide)), rfl, ?_⟩
    simp [counts]

/-- Whichever way a file has been opened, the database is kept. -/
theorem Opens.kept {start : FileSystem} (h : Opens path place access start db files)
    (hleads : Leads start path place access) : Kept db files place access := by
  cases h with
  | table rows htable hfinds => exact kept_of_findsBeside hleads htable hfinds
  | made entry emptied cleared hentry hfile hempty hcondition hfill =>
      have hplace : start.DeadEnd place := .of_file hentry hfile
      obtain ⟨hmay, rfl, rfl⟩ := fill_cases hfill
      have hcounts := FileAccess.immutable_of_mayWrite hmay
      obtain ⟨hcleared, rfl, hunlogged⟩ :=
        refiles_observeEmpty hleads.free hcounts hempty hcondition
      have hdrop : start.Refiles (losable place access)
          (cleared.drop (beside place journalSuffix)) :=
        hcleared.trans ((hleads.free.refiles hcleared).refiles_drop hcounts (by decide))
      have hfree := hleads.free.refiles hdrop
      have hput := hdrop.trans (.put (hdrop.deadEnd hplace)
        (hdrop.keeps.directory (hleads.wellFormed.entry?_above hentry)) (isFile_database []))
      -- The new table is read back, and neither a journal nor a log is left: both have been
      -- removed, and the file that has been written is neither.
      refine ⟨hleads.refiles hput, rfl, ?_, rfl, rfl, .inr ⟨hcounts, ?_, ?_, fun hc => nomatch hc⟩⟩
      · simp [hplace.ne_nil, Table.empty]
      · simp [hplace.ne_nil, hfree.apart_place hcounts, isHot, counts]
      · simp [hplace.ne_nil, hfree.apart_place hcounts, hunlogged, untouched]

theorem Opens.keeping {start : FileSystem} (h : Opens path place access start db files) :
    db.keeping = .file place access := by
  cases h with
  | table rows htable hfinds => exact congrArg Database.keeping hfinds.fst_eq
  | made entry emptied cleared hentry hfile hempty hcondition hfill =>
      obtain ⟨_, rfl, _⟩ := fill_cases hfill
      have halike := (untouched path place access).observeEmpty_alike place access start
      rw [hempty] at halike
      exact halike.keeping

theorem openAt_cases (h : openAt fs path = (.ok db, files)) :
    ∃ made : FileSystem,
      fs.makeDirectories ((Path.parent? path).getD "") = (.ok (), made) ∧
      openNamed made path = (.ok db, files) := by
  unfold openAt at h
  dsimp only at h
  split at h
  next => exact nomatch (Prod.mk.inj h).1
  next made hmake =>
    refine ⟨made, hmake, ?_⟩
    split at h
    next db' files' hopen =>
      obtain ⟨hdb, rfl⟩ := Prod.mk.inj h
      rw [hopen, Except.ok.inj hdb]
    next => exact nomatch (Prod.mk.inj h).1

/-- A name whose database is kept in a file stands for the place of the file. -/
theorem openNamed_cases (h : openNamed fs path = (.ok db, files))
    (hkeeping : db.keeping = .file place access) :
    ∃ name place' access', DatabaseName.ofText path = .file name access' ∧
      placeOf fs name = some place' ∧ openFile fs path place' access' = (.ok db, files) := by
  unfold openNamed at h
  split at h
  next => exact nomatch (Prod.mk.inj h).1
  next name access' hname =>
    split at h
    next place' hplace => exact ⟨name, place', access', hname, hplace, h⟩
    next => exact nomatch (Prod.mk.inj h).1
  next writable shared _ =>
    split at h
    next =>
      rw [← Except.ok.inj (Prod.mk.inj h).1] at hkeeping
      exact nomatch hkeeping
    next => exact nomatch (Prod.mk.inj h).1

/-- A database that has just been opened in a file is kept there, unless what stands beside the file
is such that a way can lead through it. -/
theorem kept_of_openAt (hfs : fs.WellFormed) (h : openAt fs path = (.ok db, files))
    (hkeeping : db.keeping = .file place access)
    (hfree : FreeBeside (fs.makeDirectories ((Path.parent? path).getD "")).2 place access) :
    Kept db files place access := by
  obtain ⟨made, hmake, hopen⟩ := openAt_cases h
  rw [hmake] at hfree
  obtain ⟨hmade, _⟩ := hfs.makeDirectoriesWithin_ok hmake
  obtain ⟨name, place', access', hname, hplace, hfile⟩ := openNamed_cases hopen hkeeping
  obtain ⟨hsize, hfound⟩ := openFile_cases hfile
  obtain ⟨start, hstart, hopens⟩ := opens_of_openFound (noLink_of_placeOf hmade hplace) hfound
  have hsame := hopens.keeping.symm.trans hkeeping
  -- The file that was found is the one in which the database is kept.
  obtain ⟨rfl, rfl⟩ : place' = place ∧ access' = access := by
    rw [Keeping.file.injEq] at hsame
    exact hsame
  have habove : (Path.parent? path).getD "" = "" ∨
      made.isDirectory ((Path.parent? path).getD "") = true := by
    by_cases hpath : (Path.parent? path).getD "" = ""
    · exact .inl hpath
    · exact .inr (hfs.isDirectory_of_makeDirectoriesWithin hpath hmake)
  have hleads : Leads made path place' access' :=
    ⟨hmade, ⟨name, hname, hplace⟩, habove, hsize, hfree⟩
  exact hopens.kept (hleads.refiles hstart)

end Database

end EnvProfiles
