import EnvProfiles.Proofs.Resolving.Locality
import EnvProfiles.Proofs.Resolving.Several
import EnvProfiles.Proofs.Stores.Opening
import EnvProfiles.Proofs.Stores.Operations

/-!
# Closing a Database and Opening It Again

What is stored in a database that is kept in a file survives its being closed.
Whenever it is closed and its path is opened again, the operations that follow
are answered as they would have been without, and whoever opens the path a
second time to load variables finds what the open database has.

The two runs differ in one thing: a database that uses a log loses it when it is
closed. Nothing that is answered tells the difference, so the runs are compared
up to this. That each closing can be followed by an opening is an invariant of
the run with closings alone.

A database that is kept in memory has none of this, and its name is a path like
any other: what was stored under `:memory:` is gone when it is closed, and whoever
opens that path a second time finds nothing.

## Main definitions

* `Session.Step`: What can be done with a database that may be closed.
* `Session.answersThrough`: What is answered in a run with closings.
* `Session.Kept`: A session whose database is kept in a file.
* `Session.Twin`: Two databases differ in their use of a log at most.

## Theorems

* `Session.Twin.perform_edit`, `Session.load_eq`, `Session.reopen_kept`: What each
  step comes to, and what it preserves.
* `Session.answersThrough_eq`: Closings make no difference.
* `Session.answersThrough_volatile`: In memory they do.
-/

namespace EnvProfiles

/-! ### Databases that differ in their use of a log -/

namespace Database

variable {db : Database}

/-- The database with a log in use, or without. -/
def withLog (db : Database) (logging : Bool) : Database := { db with logging }

@[simp] theorem readable?_withLog (db : Database) (logging : Bool) :
    (db.withLog logging).readable? = db.readable? := rfl

theorem update_withLog (db : Database) (logging : Bool) (change : Table → Table) :
    (db.withLog logging).update change = (db.update change).map (·.withLog logging) := by
  unfold update
  rw [readable?_withLog]
  cases db.readable? with
  | error fault => rfl
  | ok table =>
      change (if (db.mayWrite && decide (db.condition = .sound)) = true then _ else _) =
        Except.map _ (if (db.mayWrite && decide (db.condition = .sound)) = true then _ else _)
      split <;> rfl

/-- Changes are made alike with a log and without. -/
theorem apply_withLog (db : Database) (logging : Bool) (change : Change) :
    change.apply (db.withLog logging) = (change.apply db).map (·.withLog logging) := by
  cases change with
  -- A change comes down to an update of the table, which does not look at the log.
  | set key text => exact update_withLog db logging _
  | delete key =>
      change (db.withLog logging).delete key = (db.delete key).map _
      unfold delete
      rw [readable?_withLog]
      cases db.readable? with
      | error fault => rfl
      | ok table =>
          change (if (db.mayWrite && (table.select key).isNone) = true then _ else _) =
            Except.map _ (if (db.mayWrite && (table.select key).isNone) = true then _ else _)
          split
          · rfl
          · exact update_withLog db logging _
  | rename key newKey =>
      change (db.withLog logging).rename key newKey = (db.rename key newKey).map _
      unfold rename
      rw [readable?_withLog]
      cases db.readable? with
      | error fault => rfl
      | ok table =>
          change (KeyStore.rename table key newKey).bind _ =
            Except.map _ ((KeyStore.rename table key newKey).bind _)
          cases KeyStore.rename table key newKey with
          | error fault => rfl
          | ok moved =>
              change (if key = newKey then _ else _) = Except.map _ (if key = newKey then _ else _)
              split
              · rfl
              · exact update_withLog db logging _

theorem next_withLog (db : Database) (logging : Bool) (change : Change) :
    change.next (db.withLog logging) = (change.next db).withLog logging := by
  rw [Change.next, Change.next, apply_withLog]
  cases change.apply db <;> rfl

/-- Changes are answered alike with a log and without. -/
theorem answer_withLog (db : Database) (logging : Bool) (change : Change) :
    ((Request.change change).answer (db.withLog logging)).1 =
      ((Request.change change).answer db).1 := by
  rw [Request.answer, Request.answer, apply_withLog]
  cases change.apply db <;> rfl

end Database

/-- Stores that have the same texts let the same profiles export the same. -/
theorem resolveProfiles_of_get?_eq {σ τ : Type} [KeyStore σ] [KeyStore τ] {store : σ} {other : τ}
    (h : ∀ key, KeyStore.get? other key = KeyStore.get? store key) (keys : List String) :
    resolveProfiles other keys = resolveProfiles store keys := by
  have hsame : resolveProfile other = resolveProfile store :=
    funext fun _ => resolveProfile_congr fun k _ => h k
  rw [resolveProfiles_eq_gather, resolveProfiles_eq_gather, hsame]

/-- Whatever is read is read alike with a log and without. -/
theorem Reading.answer_withLog (r : Reading) (db : Database) (logging : Bool) :
    r.answer (db.withLog logging) = r.answer db := by
  have hall : ∀ keys, Command.environment (db.withLog logging) keys = Command.environment db keys :=
    resolveProfiles_of_get?_eq fun _ => rfl
  cases r with
  | get key => rfl
  | keys => rfl
  | entries => rfl
  | print key => rfl
  | listKeys => rfl
  | resolve key => exact congrArg (Except.map _) (resolveProfile_congr fun _ _ => rfl)
  | resolveAll keys => exact congrArg (Except.map _) (hall keys)
  | render form keys => exact congrArg (Except.map _) (hall keys)

/-! ### Runs with closings -/

namespace Session

/-- What can be done with a database that may be closed. -/
inductive Step where
  | edit (edit : Edit)
  | read (reading : Reading)
  /-- The path is opened a second time, to load the variables that profiles export. -/
  | load (keys : List String)
  /-- The database is closed, and its path is opened again. -/
  | reopen
deriving DecidableEq, Repr

/-- What a step comes to if nothing is ever closed. -/
def Step.operation? : Step → Option Operation
  | edit e => some (.edit e)
  | read r => some (.read r)
  | load keys => some (.read (.resolveAll keys))
  | reopen => none

/-- Closes the database and opens its path again. -/
def reopen (s : Session Database) : Except Fault (Session Database) :=
  match Database.openAt (s.store.close s.files) s.store.path with
  | (.ok db, files) => .ok (resume db files)
  | (.error fault, _) => .error fault

/-- Opens the path of the database a second time, to load the variables that profiles export. -/
def load (s : Session Database) (keys : List String) : Except Fault Success × Session Database :=
  let (vars, files) := reloadEnvironment s.store s.files keys
  (vars.map .environment, resume s.store files)

/-- What is answered in a run. -/
def answers (s : Session Database) : List Operation → List (Except Fault Success)
  | [] => []
  | op :: run => (s.perform op).1 :: answers (s.perform op).2 run

/-- What is answered in a run with closings. It ends if the database cannot be opened again. -/
def answersThrough (s : Session Database) :
    List Step → Except Fault (List (Except Fault Success))
  | [] => .ok []
  | .edit e :: run =>
    (answersThrough (s.perform (.edit e)).2 run).map ((s.perform (.edit e)).1 :: ·)
  | .read r :: run =>
    (answersThrough (s.perform (.read r)).2 run).map ((s.perform (.read r)).1 :: ·)
  | .load keys :: run => (answersThrough (s.load keys).2 run).map ((s.load keys).1 :: ·)
  | .reopen :: run =>
    match s.reopen with
    | .ok s => answersThrough s run
    | .error fault => .error fault

/-- The database of a session is kept in a file. -/
def Kept (s : Session Database) (place : Location) (access : FileAccess) : Prop :=
  s.store.Kept s.files place access

/-- The databases of two sessions differ in their use of a log at most. -/
def Twin (s t : Session Database) : Prop := ∃ logging, t.store = s.store.withLog logging

variable {s t : Session Database} {place : Location} {access : FileAccess}

/-! ### One step -/

/-- After a change the session is left with what was written back. -/
theorem change_eq (s : Session Database) (change : Change) :
    (s.change change).store = ((change.next s.store).commit s.files).1 ∧
      (s.change change).files = ((change.next s.store).commit s.files).2 := by
  have hfound := OpenStore.observe_commit s.observed s.settled change
  exact ⟨congrArg Prod.fst hfound, congrArg Prod.snd hfound⟩

theorem kept_change (h : t.Kept place access) (change : Change) :
    (t.change change).Kept place access := by
  obtain ⟨hstore, hfiles⟩ := t.change_eq change
  rw [Kept, hstore, hfiles]
  exact Database.Kept.commit h change

theorem Twin.change (h : Twin s t) (change : Change) :
    Twin (s.change change) (t.change change) := by
  obtain ⟨logging, hlog⟩ := h
  refine ⟨logging, ?_⟩
  rw [(t.change_eq change).1, (s.change_eq change).1, Database.commit_fst, Database.commit_fst,
    hlog, Database.next_withLog]
  rfl

/-- An edit is answered alike, and leaves both sessions as they are to be. -/
theorem Twin.perform_edit (h : Twin s t) (hkept : t.Kept place access) (e : Edit) :
    (t.perform (.edit e)).1 = (s.perform (.edit e)).1 ∧
      Twin (s.perform (.edit e)).2 (t.perform (.edit e)).2 ∧
      (t.perform (.edit e)).2.Kept place access := by
  -- An edit that changes nothing leaves both as they are.
  cases he : e.change? with
  | none =>
      rw [perform_edit_of_none s he, perform_edit_of_none t he]
      exact ⟨rfl, h, hkept⟩
  | some change =>
      rw [perform_edit_of_some s he, perform_edit_of_some t he]
      refine ⟨?_, h.change change, kept_change hkept change⟩
      obtain ⟨logging, hlog⟩ := h
      rw [hlog, Database.answer_withLog]

theorem Twin.answer_eq (h : Twin s t) (r : Reading) : r.answer t.store = r.answer s.store := by
  obtain ⟨logging, hlog⟩ := h
  rw [hlog, r.answer_withLog]

/-- To load variables comes to reading them from the open database. -/
theorem load_eq (h : t.Kept place access) (keys : List String) :
    t.load keys = t.perform (.read (.resolveAll keys)) := by
  have hload : reloadEnvironment t.store t.files keys =
      (Command.environment t.store keys, t.files) := by
    unfold reloadEnvironment
    cases hlogging : t.store.logging with
    -- With a log in use nothing is opened a second time.
    | true => rfl
    | false =>
        have hopen := Database.Kept.openAt_eq h hlogging
        -- The second database is the first one once more, and no log is removed when it is closed.
        have hclose := Database.Kept.close_eq h
        rw [hlogging, Bool.false_and, if_neg Bool.false_ne_true] at hclose
        rw [if_neg Bool.false_ne_true, Database.openAgain, h.keeping]
        dsimp only
        rw [hopen, Database.environment, hclose]
  rw [load, hload]
  rfl

/-- A database that is kept is found again as it was when it has just been opened. -/
theorem resume_kept {db : Database} {files : FileSystem} (h : db.Kept files place access) :
    (resume db files).store = db ∧ (resume db files).Kept place access := by
  -- There is nothing to write back, and nothing new to be seen.
  have hfound : (resume db files).store = db ∧ (resume db files).files = files := by
    have hcommit : OpenStore.commit db files = (db, files) :=
      Database.commit_unchanged h.settled files
    have hobserve : OpenStore.observe db files = (db, files) := h.observe_eq
    unfold resume
    simp only [hcommit, hobserve, and_self]
  refine ⟨hfound.1, ?_⟩
  rw [Kept, hfound.1, hfound.2]
  exact h

/-- A database that is kept can be closed and opened again, and is kept then. -/
theorem reopen_kept (h : t.Kept place access) :
    ∃ t', t.reopen = .ok t' ∧ Twin t t' ∧ t'.Kept place access := by
  obtain ⟨logging, files, hopen, hkept⟩ := Database.Kept.reopen h
  obtain ⟨hstore, hresumed⟩ := resume_kept hkept
  refine ⟨resume { t.store with logging } files, ?_, ⟨logging, hstore⟩, hresumed⟩
  rw [reopen, hopen]

theorem Twin.trans {u : Session Database} (h : Twin s t) (h' : Twin t u) : Twin s u := by
  obtain ⟨logging, hlog⟩ := h
  obtain ⟨logging', hlog'⟩ := h'
  refine ⟨logging', ?_⟩
  rw [hlog', hlog]
  rfl

/-! ### Whole runs -/

/-- Closings make no difference between sessions that differ in their use of a log. -/
theorem Twin.answers_eq (h : Twin s t) (hkept : t.Kept place access) (steps : List Step) :
    t.answersThrough steps = .ok (s.answers (steps.filterMap Step.operation?)) := by
  -- The session with closings stays the twin of the other one, and its database stays kept.
  induction steps generalizing s t with
  | nil => rfl
  | cons step steps ih =>
      cases step with
      | edit e =>
          obtain ⟨hanswer, htwin, hstill⟩ := h.perform_edit hkept e
          rw [answersThrough, ih htwin hstill, hanswer]
          rfl
      | read r =>
          rw [answersThrough, t.perform_read r, ih h hkept, List.filterMap_cons, Step.operation?,
            answers, s.perform_read r]
          exact congrArg (fun a => Except.ok (a :: _)) (h.answer_eq r)
      | load keys =>
          rw [answersThrough, load_eq hkept, t.perform_read, ih h hkept, List.filterMap_cons,
            Step.operation?, answers, s.perform_read]
          exact congrArg (fun a => Except.ok (a :: _)) (h.answer_eq (.resolveAll keys))
      | reopen =>
          obtain ⟨t', hopen, htwin, hstill⟩ := reopen_kept hkept
          rw [answersThrough, hopen]
          exact ih (h.trans htwin) hstill

/-- What is stored in a file survives. Once a path has been opened, and the database is kept in a
file, it can be closed and opened again any number of times, wherever in a run: that never fails,
and all that is done and read is answered as it would have been without. What is loaded by opening
the path a second time is what the open database exports. -/
theorem answersThrough_eq {fs files : FileSystem} {path : String} {db : Database}
    (hfs : fs.WellFormed) (hopen : Database.openAt fs path = (.ok db, files))
    (hkeeping : db.keeping = .file place access)
    (hfree : Database.FreeBeside (fs.makeDirectories ((Path.parent? path).getD "")).2 place access)
    (steps : List Step) :
    (resume db files).answersThrough steps =
      .ok ((resume db files).answers (steps.filterMap Step.operation?)) := by
  have hkept := (resume_kept (Database.kept_of_openAt hfs hopen hkeeping hfree)).2
  exact Twin.answers_eq ⟨(resume db files).store.logging, rfl⟩ hkept steps

/-- A profile is stored and given another name, and is there each time after the database, which is
in a directory that was made for it, has been closed. -/
theorem answersThrough_denv :
    ∃ db files, FileSystem.fresh.WellFormed ∧
      Database.openAt .fresh "deep/denv.db" = (.ok db, files) ∧
      db.keeping = .file ["work", "deep", "denv.db"] ⟨true, true, false, .shared, none⟩ ∧
      Database.FreeBeside (FileSystem.fresh.makeDirectories "deep").2 ["work", "deep", "denv.db"]
        ⟨true, true, false, .shared, none⟩ ∧
      (resume db files).answersThrough [.edit (.change (.set "base" "env: \x7b\x7d")), .reopen,
          .edit (.rename "base" "old"), .reopen, .reopen, .read (.get "old"), .read .keys] =
        .ok [.ok .done, .ok .done, .ok (.text (some "env: \x7b\x7d")), .ok (.keys ["old"])] := by
  refine ⟨⟨"deep/denv.db", .file ["work", "deep", "denv.db"] ⟨true, true, false, .shared, none⟩,
    .empty, .sound, false, false⟩, (Database.openAt .fresh "deep/denv.db").2, ?_⟩
  have hopen : Database.openAt .fresh "deep/denv.db" = (.ok ⟨"deep/denv.db",
      .file ["work", "deep", "denv.db"] ⟨true, true, false, .shared, none⟩, .empty, .sound, false,
      false⟩,
      (Database.openAt .fresh "deep/denv.db").2) := by rfl
  have hparent : (Path.parent? "deep/denv.db").getD "" = "deep" := by decide +kernel
  have hfree : Database.FreeBeside (FileSystem.fresh.makeDirectories "deep").2
      ["work", "deep", "denv.db"] ⟨true, true, false, .shared, none⟩ := by
    refine ⟨fun other hother => .of_absent ?_, by decide +kernel, fun _ hc => nomatch hc⟩
    revert other
    decide +kernel
  refine ⟨FileSystem.fresh_wellFormed, hopen, rfl, hfree, ?_⟩
  rw [answersThrough_eq FileSystem.fresh_wellFormed hopen rfl (hparent.symm ▸ hfree)]
  decide +kernel

/-! ### Databases in memory -/

/-- Not every path that can be opened leads to something that lasts: what is stored under `:memory:`
is gone when the database is closed. -/
theorem answersThrough_volatile :
    ¬ ∀ (path : String) (db : Database) (files : FileSystem),
      Database.openAt .fresh path = (.ok db, files) → ∀ steps : List Step,
        (resume db files).answersThrough steps =
          .ok ((resume db files).answers (steps.filterMap Step.operation?)) := by
  intro h
  have hopen : Database.openAt .fresh ":memory:" = (.ok .inMemory, .fresh) := by rfl
  have hsame := h ":memory:" .inMemory .fresh hopen
    [.edit (.change (.set "base" "env:\n  A: b\n")), .reopen, .read (.get "base")]
  exact absurd hsame (by decide +kernel)

end Session

end EnvProfiles
