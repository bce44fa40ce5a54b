import EnvProfiles.Proofs.Files.WellFormed
import EnvProfiles.Proofs.Stores.Kinds

/-!
# Looking at the File of a Database

A database in a file is what is found there, so it is looked at before it is
asked for anything. To look may change what is found: a journal is removed that
was left over, and a log is removed or taken into use. What is proved here is
that this has an end at once. What was looked at shows nothing new when it is
looked at again, and a table that is written back is found as it was written.

What is found depends on few files only, that of the database, its journal, its
log and the index of the log. As long as these stay as they are, the database
does as well.

## Main definitions

* `Database.ownPlaces`: The places whose files a database uses.
* `Database.Alike`: Two databases differ in what is known of their files at most.
* `Database.Finding`: What is found at the place of a database.

## Theorems

* `Database.observe_observe`: To look again shows nothing new.
* `Database.observe_congr`: Other files make no difference.
* `Database.next_cases`: What a change can do to a database.
* `Database.observe_commit`: What was written back is found.
-/

namespace EnvProfiles

namespace Database

variable {db : Database} {fs fs' : FileSystem} {place : Location} {access : FileAccess}
  {suffix suffix' : String}

/-! ### Places beside a place -/

@[simp] theorem beside_ne_nil (place : Location) (suffix : String) : beside place suffix ≠ [] :=
  List.append_ne_nil_of_right_ne_nil _ (List.cons_ne_nil _ _)

@[simp] theorem beside_inj : beside place suffix = beside place suffix' ↔ suffix = suffix' := by
  constructor
  · exact fun h => (String.append_right_inj _).mp (List.cons.inj (List.append_cancel_left h)).1
  · exact congrArg (beside place)

theorem beside_empty (h : place ≠ []) : beside place "" = place := by
  cases place using List.reverseRecOn with
  | nil => exact absurd rfl h
  | append_singleton front name =>
      rw [beside, List.dropLast_concat, List.getLast?_concat]
      exact congrArg (front ++ [·]) String.append_empty

/-- A name that is longer by a suffix is another name. -/
@[simp] theorem beside_eq_iff : beside place suffix = place ↔ suffix = "" ∧ place ≠ [] := by
  constructor
  · intro h
    have hplace : place ≠ [] := h ▸ beside_ne_nil place suffix
    exact ⟨beside_inj.mp (h.trans (beside_empty hplace).symm), hplace⟩
  · rintro ⟨rfl, hplace⟩
    exact beside_empty hplace

@[simp] theorem eq_beside_iff : place = beside place suffix ↔ suffix = "" ∧ place ≠ [] :=
  eq_comm.trans beside_eq_iff

/-- The suffixes tell all places of a database apart. -/
@[simp] theorem suffixes_ne : journalSuffix ≠ "" ∧ logSuffix ≠ "" ∧ indexSuffix ≠ "" ∧
    journalSuffix ≠ logSuffix ∧ journalSuffix ≠ indexSuffix ∧ logSuffix ≠ journalSuffix ∧
    logSuffix ≠ indexSuffix ∧ indexSuffix ≠ journalSuffix ∧ indexSuffix ≠ logSuffix := by
  decide

/-- Two databases are the same apart from what is known of their files. -/
def Alike (db db' : Database) : Prop :=
  ∀ c, { db with condition := c } = { db' with condition := c }

theorem Alike.keeping {db db' : Database} (h : db.Alike db') : db.keeping = db'.keeping :=
  (congrArg Database.keeping (h .sound) :)

theorem Alike.logging {db db' : Database} (h : db.Alike db') : db.logging = db'.logging :=
  (congrArg Database.logging (h .sound) :)

theorem Alike.changed {db db' : Database} (h : db.Alike db') : db.changed = db'.changed :=
  (congrArg Database.changed (h .sound) :)

/-- What is added to the name of a database for the files beside it. -/
def suffixes : List String := [journalSuffix, logSuffix, indexSuffix]

@[simp] theorem mem_suffixes :
    journalSuffix ∈ suffixes ∧ logSuffix ∈ suffixes ∧ indexSuffix ∈ suffixes := by decide

/-- The places of a database in a file: its own, and those of its journal, its log and the index of
its log. -/
def usedPlaces (place : Location) : List Location := place :: suffixes.map (beside place)

/-- The places whose files a database uses. -/
def ownPlaces (db : Database) : List Location :=
  match db.keeping with
  | .memory _ _ => []
  | .file place _ => usedPlaces place

/-! ### Other files -/

theorem useLog_congr (db : Database) (access : FileAccess)
    (hlog : fs'.entry? (beside place logSuffix) = fs.entry? (beside place logSuffix))
    (hindex : fs'.sameFile (beside place indexSuffix) place =
      fs.sameFile (beside place indexSuffix) place) :
    (db.useLog place access fs').1 = (db.useLog place access fs).1 := by
  unfold useLog
  simp only [hlog, hindex]
  split_ifs <;> rfl

theorem observeBeside_congr (db : Database) (access : FileAccess)
    (hjournal : fs'.entry? (beside place journalSuffix) = fs.entry? (beside place journalSuffix))
    (hlog : fs'.entry? (beside place logSuffix) = fs.entry? (beside place logSuffix))
    (hindex : fs'.sameFile (beside place indexSuffix) place =
      fs.sameFile (beside place indexSuffix) place) :
    (db.observeBeside place access fs').1 = (db.observeBeside place access fs).1 := by
  unfold observeBeside
  simp only [hjournal]
  split_ifs
  · rfl
  · rfl
  · rfl
  · refine useLog_congr db access ?_ ?_
    · simp [hlog]
    · simp [hindex]
  · exact useLog_congr db access hlog hindex

/-! ### A file without a table -/

/-- The files without the journal that is found beside a database without a table. -/
def withoutJournal (place : Location) (access : FileAccess) (fs : FileSystem) : FileSystem :=
  if access.writable && counts (fs.entry? (beside place journalSuffix)) then
    dropFile fs (beside place journalSuffix)
  else fs

@[simp] theorem entry?_dropFile (h : place ≠ []) (other : Location) :
    FileSystem.entry? (dropFile fs place) other =
      if other = place ∧ fs.entry? place ≠ some .directory then none else fs.entry? other := by
  unfold dropFile
  split
  next hdir => rw [if_neg fun hc => hc.2 (beq_iff_eq.mp hdir)]
  next hdir =>
    have hfile : fs.entry? place ≠ some .directory := fun hc => hdir (beq_iff_eq.mpr hc)
    simp [h, hfile]

@[simp] theorem entry?_withoutJournal {other : Location} (h : other ≠ beside place journalSuffix) :
    FileSystem.entry? (withoutJournal place access fs) other = fs.entry? other := by
  unfold withoutJournal
  split
  · simp [h]
  · rfl

/-- What is left of a journal that counts is a directory, which is not removed. -/
theorem journal_of_withoutJournal (hwritable : access.writable = true)
    (hcounts :
      counts (FileSystem.entry? (withoutJournal place access fs)
        (beside place journalSuffix)) = true) :
    FileSystem.entry? (withoutJournal place access fs) (beside place journalSuffix) =
      some .directory := by
  -- If there was a journal to remove, it has been removed unless it was a directory.
  by_cases hbefore : (access.writable && counts (fs.entry? (beside place journalSuffix))) = true
  · rw [withoutJournal, if_pos hbefore, entry?_dropFile (beside_ne_nil _ _)] at hcounts ⊢
    split at hcounts
    next => exact nomatch hcounts
    next hkept =>
      rw [if_neg hkept]
      exact not_not.mp fun hc => hkept ⟨rfl, hc⟩
  · rw [withoutJournal, if_neg hbefore] at hcounts
    exact absurd (Bool.and_eq_true_iff.mpr ⟨hwritable, hcounts⟩) hbefore

/-- Where a journal has been removed already, nothing is left to remove. -/
theorem withoutJournal_again
    (h : fs'.entry? (beside place journalSuffix) =
      FileSystem.entry? (withoutJournal place access fs) (beside place journalSuffix)) :
    withoutJournal place access fs' = fs' := by
  rw [withoutJournal]
  split
  next hcounts =>
    obtain ⟨hwritable, hcounts⟩ := Bool.and_eq_true_iff.mp hcounts
    rw [h] at hcounts
    rw [dropFile, h, journal_of_withoutJournal hwritable hcounts]
    rfl
  next => rfl

theorem observeEmpty_eq (db : Database) (place : Location) (access : FileAccess)
    (fs : FileSystem) :
    db.observeEmpty place access fs =
      if access.immutable then ({ db with condition := .empty }, fs)
      else if !counts (FileSystem.entry? (withoutJournal place access fs)
          (beside place logSuffix)) then
        ({ db with condition := .empty }, withoutJournal place access fs)
      else if
        FileSystem.entry? (withoutJournal place access fs) (beside place logSuffix) ==
          some .directory then
        ({ db with condition := .spoiled "disk I/O error" }, withoutJournal place access fs)
      else
        ({ db with condition := .empty },
          (withoutJournal place access fs).drop (beside place logSuffix)) := rfl

theorem observeEmpty_congr (db : Database) (access : FileAccess)
    (hlog : fs'.entry? (beside place logSuffix) = fs.entry? (beside place logSuffix)) :
    (db.observeEmpty place access fs').1 = (db.observeEmpty place access fs).1 := by
  have hleft : FileSystem.entry? (withoutJournal place access fs') (beside place logSuffix) =
      FileSystem.entry? (withoutJournal place access fs) (beside place logSuffix) := by
    simp [hlog]
  rw [observeEmpty_eq, observeEmpty_eq, hleft]
  split_ifs <;> rfl

/-- What was found without a table is found without one again, with nothing left to remove. -/
theorem observeEmpty_again {db db' : Database} (h : db'.Alike db) :
    db'.observeEmpty place access (db.observeEmpty place access fs).2 =
      db.observeEmpty place access fs := by
  have hstill : withoutJournal place access (withoutJournal place access fs) =
      withoutJournal place access fs := withoutJournal_again rfl
  rw [observeEmpty_eq db]
  split_ifs with himmutable hlog hdir
  · rw [observeEmpty_eq, if_pos himmutable, h]
  · rw [observeEmpty_eq, if_neg himmutable, hstill, if_pos hlog, h]
  · rw [observeEmpty_eq, if_neg himmutable, hstill, if_neg hlog, if_pos hdir, h]
  · -- The log is gone as well, and its removal has brought no journal back.
    have hdrop : withoutJournal place access
        ((withoutJournal place access fs).drop (beside place logSuffix)) =
        (withoutJournal place access fs).drop (beside place logSuffix) := by
      have hkept :
          FileSystem.entry? ((withoutJournal place access fs).drop (beside place logSuffix))
              (beside place journalSuffix) =
            FileSystem.entry? (withoutJournal place access fs) (beside place journalSuffix) := by
        simp
      exact withoutJournal_again hkept
    have hgone : counts (FileSystem.entry? ((withoutJournal place access fs).drop
        (beside place logSuffix)) (beside place logSuffix)) = false := by
      simp [counts]
    rw [observeEmpty_eq, if_neg himmutable, hdrop, hgone, if_pos (by rfl), h]

theorem observeEmpty_alike (db : Database) (place : Location) (access : FileAccess)
    (fs : FileSystem) : (db.observeEmpty place access fs).1.Alike db := by
  rw [observeEmpty_eq]
  split_ifs <;> exact fun _ => rfl

theorem observeEmpty_not_sound {found : Database × FileSystem}
    (h : db.observeEmpty place access fs = found) : found.1.condition ≠ .sound := by
  subst h
  rw [observeEmpty_eq]
  split_ifs <;> exact fun hc => nomatch hc

theorem entry?_observeEmpty (db : Database) (place : Location) (access : FileAccess)
    (fs : FileSystem) :
    FileSystem.entry? (db.observeEmpty place access fs).2 place = fs.entry? place := by
  rw [observeEmpty_eq]
  split_ifs <;> simp

/-! ### What stands beside a file -/

theorem useLog_cases (db : Database) (place : Location) (access : FileAccess) (fs : FileSystem) :
    (db.useLog place access fs).1.logging = true ∨
      (db.useLog place access fs).2 = fs ∧ (db.useLog place access fs).1.Alike db := by
  unfold useLog
  dsimp only
  split_ifs
  · exact .inr ⟨rfl, fun _ => rfl⟩
  · exact .inr ⟨rfl, fun _ => rfl⟩
  · exact .inl rfl
  · exact .inl rfl
  · exact .inl rfl

/-- Unless a log was found, what was found beside a file is found again. -/
theorem observeBeside_again {found : Database × FileSystem}
    (h : db.observeBeside place access fs = found) :
    found.1.logging = true ∨ found.1.Alike db ∧ FileSystem.entry? found.2 place = fs.entry? place ∧
      db.observeBeside place access found.2 = found := by
  have hagain := h
  unfold observeBeside at h
  dsimp only at h
  split_ifs at h with himmutable hdir hhot hleft
  · subst h
    exact .inr ⟨fun _ => rfl, rfl, hagain⟩
  · subst h
    exact .inr ⟨fun _ => rfl, rfl, hagain⟩
  · subst h
    exact .inr ⟨fun _ => rfl, rfl, hagain⟩
  · -- The journal is gone, so that only the log is left to be looked at.
    subst h
    refine (db.useLog_cases place access _).imp_right fun ⟨hfiles, halike⟩ => ⟨halike, ?_, ?_⟩
    · simp [hfiles]
    · have hgone : FileSystem.entry? (fs.drop (beside place journalSuffix))
          (beside place journalSuffix) = none := by simp
      rw [hfiles, observeBeside, hgone, if_neg himmutable]
      rfl
  · subst h
    refine (db.useLog_cases place access _).imp_right fun ⟨hfiles, halike⟩ => ⟨halike, ?_, ?_⟩
    · rw [hfiles]
    · rw [hfiles, hagain]

/-! ### The file -/

/-- What is found at the place of a database. -/
inductive Finding where
  | nothing
  | directory
  | table (rows : List (String × String))
  /-- A file that holds no table. -/
  | empty
  /-- A file that is no database. -/
  | foreign

/-- What it means for a database that something is found at its place. -/
def Finding.ofEntry : Option Entry → Finding
  | none => nothing
  | some (.link _) => nothing
  | some .directory => directory
  | some (.database rows) => table rows
  | some (.text content) => if content.utf8ByteSize ≤ 1 then empty else foreign
  | some (.octets content) => if content.length ≤ 1 then empty else foreign

theorem counts_of_table {entry : Option Entry} {rows : List (String × String)}
    (h : Finding.ofEntry entry = .table rows) : counts entry = true := by
  rcases entry with _ | (_ | content | content | rows | target)
  · exact nomatch h
  · exact nomatch h
  · rw [Finding.ofEntry] at h
    split_ifs at h
  · rfl
  · rfl
  · exact nomatch h

/-- Looks at a file again in which something was found. -/
def observeFinding (db : Database) (place : Location) (access : FileAccess) (fs : FileSystem) :
    Finding → Database × FileSystem
  | .nothing => ({ db with condition := .gone }, fs)
  | .directory => ({ db with condition := .spoiled "disk I/O error" }, fs)
  | .table rows =>
    { db with table := ⟨rows⟩, condition := .sound }.observeBeside place access fs
  | .empty => db.observeEmpty place access fs
  | .foreign =>
    { db with condition := .spoiled "file is not a database" }.observeBeside place access fs

theorem observe_file (hkeeping : db.keeping = .file place access) (hlogging : db.logging = false)
    (fs : FileSystem) :
    db.observe fs = db.observeFinding place access fs (.ofEntry (fs.entry? place)) := by
  obtain ⟨path, keeping, table, condition, changed, logging⟩ := db
  obtain rfl : keeping = .file place access := hkeeping
  obtain rfl : logging = false := hlogging
  unfold observe
  dsimp only
  rcases fs.entry? place with _ | (_ | content | content | rows | target)
  · rfl
  · rfl
  · dsimp only [Finding.ofEntry]
    split_ifs <;> rfl
  · dsimp only [Finding.ofEntry]
    split_ifs <;> rfl
  · rfl
  · rfl

theorem observe_memory {writable shared : Bool} (h : db.keeping = .memory writable shared)
    (fs : FileSystem) : db.observe fs = (db, fs) := by
  unfold observe
  simp only [h]

theorem observe_logging (h : db.logging = true) (fs : FileSystem) : db.observe fs = (db, fs) := by
  cases hkeeping : db.keeping with
  | memory => exact observe_memory hkeeping fs
  | file =>
      unfold observe
      simp only [hkeeping, h]

/-- What was found is found again, unless a log was found, which is then all that is looked at. -/
theorem observeFinding_again {found : Database × FileSystem} {finding : Finding}
    (h : db.observeFinding place access fs finding = found) :
    found.1.logging = true ∨ found.1.keeping = db.keeping ∧ found.1.logging = db.logging ∧
      FileSystem.entry? found.2 place = fs.entry? place ∧
      found.1.observeFinding place access found.2 finding = found := by
  cases finding with
  | nothing => subst h; exact .inr ⟨rfl, rfl, rfl, rfl⟩
  | directory => subst h; exact .inr ⟨rfl, rfl, rfl, rfl⟩
  | table rows =>
      refine (observeBeside_again h).imp_right fun ⟨halike, hplace, hagain⟩ => ?_
      -- The table is set anew before the look beside the file, which sees no difference.
      have hsame := congrArg (fun d => { d with table := ⟨rows⟩ }) (halike .sound)
      exact ⟨halike.keeping, halike.logging, hplace,
        (congrArg (observeBeside · place access found.2) hsame).trans hagain⟩
  | empty =>
      subst h
      have halike := db.observeEmpty_alike place access fs
      exact .inr ⟨halike.keeping, halike.logging, entry?_observeEmpty db place access fs,
        observeEmpty_again halike⟩
  | foreign =>
      refine (observeBeside_again h).imp_right fun ⟨halike, hplace, hagain⟩ => ?_
      exact ⟨halike.keeping, halike.logging, hplace,
        (congrArg (observeBeside · place access found.2) (halike _)).trans hagain⟩

/-- What has been looked at shows nothing new when it is looked at again. -/
theorem observe_observe {found : Database × FileSystem} (h : db.observe fs = found) :
    found.1.observe found.2 = found := by
  cases hkeeping : db.keeping with
  | memory =>
      have hfound := (observe_memory hkeeping fs).symm.trans h
      subst hfound
      exact h
  | file place access =>
      cases hlogging : db.logging with
      | true =>
          have hfound := (observe_logging hlogging fs).symm.trans h
          subst hfound
          exact h
      | false =>
          rw [observe_file hkeeping hlogging] at h
          -- A log that is in use is not looked for again. Otherwise the same is found as before.
          rcases observeFinding_again h with hlog | ⟨hkept, hquiet, hplace, hagain⟩
          · exact observe_logging hlog _
          · rw [observe_file (hkept.trans hkeeping) (hquiet.trans hlogging), hplace]
            exact hagain

/-- As long as the files of a database stay as they are, and none gets another name, it is found as
it was. -/
theorem observe_congr (h : ∀ place ∈ db.ownPlaces, fs'.entry? place = fs.entry? place)
    (hnames : ∀ a b, fs'.sameFile a b = fs.sameFile a b) :
    (db.observe fs').1 = (db.observe fs).1 := by
  cases hkeeping : db.keeping with
  | memory => rw [observe_memory hkeeping, observe_memory hkeeping]
  | file place access =>
      cases hlogging : db.logging with
      | true => rw [observe_logging hlogging, observe_logging hlogging]
      | false =>
          rw [ownPlaces, hkeeping] at h
          -- Only the file, the journal and the log are looked at.
          have hplace := h place List.mem_cons_self
          have hjournal := h _ (List.mem_cons_of_mem _ List.mem_cons_self)
          have hlog := h _ (List.mem_cons_of_mem _ (List.mem_cons_of_mem _ List.mem_cons_self))
          rw [observe_file hkeeping hlogging, observe_file hkeeping hlogging, hplace]
          cases Finding.ofEntry (fs.entry? place) with
          | nothing => rfl
          | directory => rfl
          | table => exact observeBeside_congr _ access hjournal hlog (hnames _ _)
          -- Here the journal is removed if it can be, so what becomes of it does not count.
          | empty => exact observeEmpty_congr _ access hlog
          | foreign => exact observeBeside_congr _ access hjournal hlog (hnames _ _)

theorem useLog_changed (db : Database) (place : Location) (access : FileAccess) (fs : FileSystem) :
    (db.useLog place access fs).1.changed = db.changed := by
  unfold useLog
  dsimp only
  split_ifs <;> rfl

theorem observeBeside_changed (db : Database) (place : Location) (access : FileAccess)
    (fs : FileSystem) : (db.observeBeside place access fs).1.changed = db.changed := by
  unfold observeBeside
  dsimp only
  split_ifs
  · rfl
  · rfl
  · rfl
  · exact useLog_changed db place access _
  · exact useLog_changed db place access fs

/-- To look at a file neither changes the table nor writes it back. -/
theorem observe_changed (db : Database) (fs : FileSystem) :
    (db.observe fs).1.changed = db.changed := by
  cases hkeeping : db.keeping with
  | memory => rw [observe_memory hkeeping]
  | file place access =>
      cases hlogging : db.logging with
      | true => rw [observe_logging hlogging]
      | false =>
          rw [observe_file hkeeping hlogging]
          cases Finding.ofEntry (fs.entry? place) with
          | nothing => rfl
          | directory => rfl
          | table => exact observeBeside_changed _ place access fs
          | empty => exact (observeEmpty_alike db place access fs).changed
          | foreign => exact observeBeside_changed _ place access fs

/-! ### Changes -/

theorem update_cases {change : Table → Table} {changed : Database}
    (h : db.update change = .ok changed) :
    db.Usable ∧ changed = { db with table := change db.table, changed := true } := by
  unfold update at h
  cases htable : db.readable? with
  | error fault => rw [htable] at h; exact nomatch h
  | ok table =>
      rw [htable] at h
      by_cases hmay : (db.mayWrite && decide (db.condition = .sound)) = true
      · have husable : db.Usable :=
          ⟨of_decide_eq_true (Bool.and_eq_true_iff.mp hmay).2, (Bool.and_eq_true_iff.mp hmay).1⟩
        change (if _ then _ else _) = _ at h
        rw [if_pos hmay] at h
        -- The table that was read is the one that the database has.
        have hsame := Except.ok.inj (husable.readable?_eq.symm.trans htable)
        exact ⟨husable, by rw [hsame]; exact (Except.ok.inj h).symm⟩
      · change (if _ then _ else _) = _ at h
        rw [if_neg hmay] at h
        exact nomatch h

/-- A change leaves a database as it is, or else the database is usable and gets another table. -/
theorem next_cases (db : Database) (change : Change) :
    change.next db = db ∨
      db.Usable ∧ ∃ table, change.next db = { db with table := table, changed := true } := by
  -- All changes come down to an update, unless there is nothing to change.
  have hupdated : ∀ {f changed}, db.update f = .ok changed →
      changed = db ∨ db.Usable ∧ ∃ table, changed = { db with table := table, changed := true } :=
    fun h => .inr ⟨(update_cases h).1, _, (update_cases h).2⟩
  unfold Change.next
  split
  next changed happly =>
    cases change with
    | set key text => exact hupdated happly
    | delete key => exact (delete_eq_ok happly).elim .inl hupdated
    | rename key newKey =>
        rcases rename_eq_ok happly with hsame | ⟨_, _, _, _, hupdate⟩
        · exact .inl hsame
        · exact hupdated hupdate
  next => exact .inl rfl

theorem commit_fst (db : Database) (fs : FileSystem) :
    (db.commit fs).1 = { db with changed := false } := by
  obtain ⟨path, keeping, table, condition, changed, logging⟩ := db
  cases changed <;> cases keeping <;> rfl

theorem commit_unchanged (h : db.changed = false) (fs : FileSystem) :
    db.commit fs = (db, fs) := by
  obtain ⟨path, keeping, table, condition, changed, logging⟩ := db
  obtain rfl : changed = false := h
  rfl

/-- A database without a log of its own can be used as it was if no log counts. -/
theorem useLog_sound {found : Database × FileSystem} (h : db.useLog place access fs = found)
    (hsound : found.1.condition = .sound) (hlogging : found.1.logging = false) :
    db.condition = .sound ∧ counts (fs.entry? (beside place logSuffix)) = false := by
  unfold useLog at h
  dsimp only at h
  split_ifs at h with hlog
  · subst h
    exact ⟨hsound, by simpa using hlog⟩
  · subst h
    exact nomatch hsound
  -- In all other cases the log is in use.
  all_goals
    subst h
    exact nomatch hlogging

/-- If a table was found, nothing beside it was in the way. -/
theorem observeBeside_sound {found : Database × FileSystem}
    (h : db.observeBeside place access fs = found) (hsound : found.1.condition = .sound)
    (hlogging : found.1.logging = false) :
    db.condition = .sound ∧ (access.immutable = true ∨
      fs.entry? (beside place journalSuffix) ≠ some .directory ∧
        counts (fs.entry? (beside place logSuffix)) = false) := by
  unfold observeBeside at h
  dsimp only at h
  split_ifs at h with himmutable hdir hhot hleft
  · subst h
    exact ⟨hsound, .inl himmutable⟩
  · subst h
    exact nomatch hsound
  · subst h
    exact nomatch hsound
  · obtain ⟨hbefore, hlog⟩ := useLog_sound h hsound hlogging
    -- The journal that was left is dropped, which is another file than the log.
    simp only [ne_eq, beside_ne_nil, not_false_eq_true, FileSystem.entry?_drop, beside_inj,
      suffixes_ne, if_false] at hlog
    exact ⟨hbefore, .inr ⟨fun hc => hdir (beq_iff_eq.mpr hc), hlog⟩⟩
  · obtain ⟨hbefore, hlog⟩ := useLog_sound h hsound hlogging
    exact ⟨hbefore, .inr ⟨fun hc => hdir (beq_iff_eq.mpr hc), hlog⟩⟩

/-- Where nothing is in the way beside a file, the file is found as it is. -/
theorem observeBeside_eq (db : Database) (h : access.immutable = true ∨
    fs.entry? (beside place journalSuffix) = none ∧
      counts (fs.entry? (beside place logSuffix)) = false) :
    db.observeBeside place access fs = (db, fs) := by
  unfold observeBeside
  rcases h with himmutable | ⟨hjournal, hlog⟩
  · exact if_pos himmutable
  · dsimp only
    rw [hjournal]
    split
    · rfl
    · change db.useLog place access fs = _
      rw [useLog, hlog]
      rfl

/-- What is found of a file and of something that does not count is not the same. -/
theorem not_sameFile_of_counts {other : Location} (hplace : counts (fs.entry? place) = true)
    (hother : counts (fs.entry? other) = false) : ¬ fs.sameFile place other := by
  refine FileSystem.not_sameFile_of_entry?_ne fun heq => ?_
  rw [heq] at hplace
  exact nomatch hother.symm.trans hplace

/-- Where a table was found in a file, nothing beside the file was in the way, and its log is
another file. -/
theorem sound_of_observe_file (hkeeping : db.keeping = .file place access)
    (hlogging : db.logging = false) (hsound : db.condition = .sound)
    (hfound : db.observe fs = (db, fs)) :
    place ≠ [] ∧ (access.immutable = true ∨
      fs.entry? (beside place journalSuffix) ≠ some .directory ∧
        counts (fs.entry? (beside place logSuffix)) = false ∧
        ¬ fs.sameFile place (beside place logSuffix)) := by
  rw [observe_file hkeeping hlogging] at hfound
  refine ⟨fun hc => ?_, ?_⟩
  · -- The root is a directory, and no database is found in one.
    subst hc
    have hspoiled := congrArg (fun found => found.1.condition) hfound
    exact nomatch hspoiled.trans hsound
  · cases hfinding : Finding.ofEntry (fs.entry? place) with
    | nothing =>
        rw [hfinding] at hfound
        exact nomatch (congrArg (fun found => found.1.condition) hfound).trans hsound
    | directory =>
        rw [hfinding] at hfound
        exact nomatch (congrArg (fun found => found.1.condition) hfound).trans hsound
    | table rows =>
        rw [hfinding] at hfound
        refine (observeBeside_sound hfound hsound hlogging).2.imp_right fun ⟨hfile, hquiet⟩ =>
          ⟨hfile, hquiet, not_sameFile_of_counts ?_ hquiet⟩
        exact counts_of_table hfinding
    | empty =>
        rw [hfinding] at hfound
        exact absurd hsound (observeEmpty_not_sound hfound)
    | foreign =>
        rw [hfinding] at hfound
        exact nomatch (observeBeside_sound hfound hsound hlogging).1

theorem commit_memory {writable shared : Bool} (h : db.keeping = .memory writable shared)
    (fs : FileSystem) : db.commit fs = ({ db with changed := false }, fs) := by
  obtain ⟨path, keeping, table, condition, changed, logging⟩ := db
  obtain rfl : keeping = .memory writable shared := h
  cases changed <;> rfl

theorem commit_file (hkeeping : db.keeping = .file place access) (hchanged : db.changed = true)
    (fs : FileSystem) :
    db.commit fs = ({ db with changed := false },
      if db.logging then
        (fs.put place (.database db.table.rows)).put (beside place logSuffix) binary
      else dropFile (fs.put place (.database db.table.rows)) (beside place journalSuffix)) := by
  obtain ⟨path, keeping, table, condition, changed, logging⟩ := db
  obtain rfl : keeping = .file place access := hkeeping
  obtain rfl : changed = true := hchanged
  rfl

/-- A table that is written back without a log is found in the file. -/
theorem observe_commit_file (hkeeping : db.keeping = .file place access)
    (hlogging : db.logging = false) (hsound : db.condition = .sound) (hchanged : db.changed = true)
    (hplace : place ≠ []) (hbeside : access.immutable = true ∨
      fs.entry? (beside place journalSuffix) ≠ some .directory ∧
        counts (fs.entry? (beside place logSuffix)) = false ∧
        ¬ fs.sameFile place (beside place logSuffix)) :
    (db.commit fs).1.observe (db.commit fs).2 = db.commit fs := by
  rw [commit_file hkeeping hchanged, if_neg (Bool.eq_false_iff.mp hlogging)]
  have hentry :
      FileSystem.entry? (dropFile (fs.put place (.database db.table.rows))
        (beside place journalSuffix)) place = some (.database db.table.rows) := by
    simp [hplace]
  -- So the file is found with the table that the database has, and the rest is found beside it.
  have hkept : ({ db with changed := false } : Database).keeping = .file place access := hkeeping
  have hsame : ({ db with table := ⟨db.table.rows⟩, condition := .sound, changed := false } :
      Database) = { db with changed := false } := by rw [hsound]
  refine (observe_file hkept hlogging _).trans ?_
  rw [hentry]
  refine (congrArg (observeBeside · place access _) hsame).trans (observeBeside_eq _ ?_)
  refine hbeside.imp_right fun ⟨hfile, hquiet, hapart⟩ => ⟨?_, ?_⟩
  · -- Even a journal that is the same file as the database is no directory, and is removed.
    have hremoved : FileSystem.entry? (fs.put place (.database db.table.rows))
        (beside place journalSuffix) ≠ some .directory := by
      rw [FileSystem.entry?_put hplace]
      split
      · exact fun hc => nomatch hc
      · exact hfile
    simp [hremoved]
  · simp [hplace, hapart, hquiet]

/-- What was written back is found when the file is looked at again. -/
theorem observe_commit (hfound : db.observe fs = (db, fs)) (hchanged : db.changed = false)
    (change : Change) :
    ((change.next db).commit fs).1.observe ((change.next db).commit fs).2 =
      (change.next db).commit fs := by
  rcases next_cases db change with hnext | ⟨husable, table, hnext⟩
  · rw [hnext, commit_unchanged hchanged]
    exact hfound
  · -- Where the table is kept, and whether there is a log, is not changed by an update.
    have hkept : (change.next db).keeping = db.keeping := by rw [hnext]
    have hstill : (change.next db).logging = db.logging := by rw [hnext]
    have hsound : (change.next db).condition = .sound := by rw [hnext]; exact husable.sound
    have hdirty : (change.next db).changed = true := by rw [hnext]
    cases hkeeping : db.keeping with
    | memory =>
        have hwritten : ({ change.next db with changed := false } : Database).keeping = _ :=
          hkept.trans hkeeping
        rw [commit_memory (hkept.trans hkeeping)]
        exact observe_memory hwritten fs
    | file place access =>
        cases hlogging : db.logging with
        | true =>
            have hwritten : ({ change.next db with changed := false } : Database).logging = true :=
              hstill.trans hlogging
            rw [commit_file (hkept.trans hkeeping) hdirty]
            exact observe_logging hwritten _
        | false =>
            obtain ⟨hplace, hbeside⟩ := sound_of_observe_file hkeeping hlogging husable.sound hfound
            exact observe_commit_file (hkept.trans hkeeping) (hstill.trans hlogging) hsound hdirty
              hplace hbeside

end Database

end EnvProfiles
