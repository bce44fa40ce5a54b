import EnvProfiles.Command.Run
import EnvProfiles.Proofs.Resolving.Depth
import EnvProfiles.Proofs.Resolving.Several
import EnvProfiles.Proofs.Stores.Stored

/-!
# All or Nothing

Somebody who asks for the environment of some profiles gets the environment of all
of them, or a fault and nothing else. There are two ways to fail: the request does
not say what to do, or one of the profiles cannot be resolved. In both of them the
ending is fixed without the machine on which programs run, so no program can have
been started, and nothing is printed.

Otherwise the request ends in one of the ways that `Command.Ends` lists. It is given
by what the profiles export and by nothing else that the store holds. An environment
is told there by its look-ups, which leave a dictionary no other freedom, so a
program that is started finds the variables of the profiles, those of the outer
environment under the other names, and no more.

What is stored stays stored in all cases. The store is closed before anything is
started, and the files it leaves are those that a program is handed.

## Main definitions

* `Command.IsOverlay`: The environment of a program that is started.
* `Command.Ends`: How a request ends whose profiles can be resolved.

## Theorems

* `exists_resolveProfiles_iff`: A row can be resolved if each profile in it can.
* `Command.isOverlay_environment`: What a program finds in its environment.
* `Command.ends_run`: A request whose profiles can be resolved ends in one of these
  ways.
* `Command.run_of_openAt`: A request comes to all or to nothing.
-/

namespace EnvProfiles

/-! ### How a request ends -/

/-- A row of profiles can be resolved if each of them can. -/
theorem exists_resolveProfiles_iff {σ : Type} [KeyStore σ] {store : σ} {keys : List String} :
    (∃ exports, resolveProfiles store keys = .ok exports) ↔ ∀ key ∈ keys, Resolvable store key := by
  constructor
  · rintro ⟨exports, hexports⟩
    rw [← findSome?_faultOf_eq_none]
    cases hfirst : keys.findSome? (faultOf store) with
    | none => rfl
    | some fault => exact nomatch hexports.symm.trans (resolveProfiles_eq_error.mpr hfirst)
  · intro h
    rcases exists_exported h with ⟨exports, hexports, _⟩
    exact ⟨exports, hexports⟩

namespace Command

/-- The environment of a program that is started: the variables that the profiles export, and those
of the outer environment under all other names, or nothing else if it is to be clean. -/
def IsOverlay (clean : Bool) (outer exports environment : Dict) : Prop :=
  ∀ name, environment.get? name =
    (exports.get? name).or (if clean then none else outer.get? name)

/-- How a request ends whose profiles can be resolved, given what they export. -/
inductive Ends (clean : Bool) (host : Host) (outer exports : Dict) (files : FileSystem) :
    RunAction → Completion → Prop
  | blank {form : Rendering} : form.render exports = "" →
    Ends clean host outer exports files (.print form) (.done "" files)
  | printed {form : Rendering} : form.render exports ≠ "" →
    Ends clean host outer exports files (.print form) (.done (form.render exports ++ "\n") files)
  | missing {program : String} {arguments : List String} {fault : ChildFault} :
    Launch.locate host files outer program = .error fault →
    Ends clean host outer exports files (.start program arguments) (.failed (.child fault) files)
  /-- Something that the program was to be given holds a null character. -/
  | unpassable {program path : String} {arguments : List String} :
    Launch.locate host files outer program = .ok (.ofProgram path) →
    Launch.passable ⟨path, arguments, exports, clean⟩ = false →
    Ends clean host outer exports files (.start program arguments)
      (.failed (.child (.notStarted (Launch.commandLine ⟨path, arguments, exports, clean⟩)
        Refusal.nullCharacter.detail)) files)
  /-- The machine does not start the program. -/
  | refused {program path : String} {arguments : List String} {environment : Dict}
      {refusal : Refusal} :
    Launch.locate host files outer program = .ok (.ofProgram path) →
    Launch.passable ⟨path, arguments, exports, clean⟩ = true →
    IsOverlay clean outer exports environment →
    host.start ⟨path, arguments, environment, ""⟩ files = .error refusal →
    Ends clean host outer exports files (.start program arguments)
      (.failed (.child (.notStarted (Launch.commandLine ⟨path, arguments, exports, clean⟩)
        refusal.detail)) files)
  | started {program path : String} {arguments : List String} {environment : Dict}
      {finish : Finish} :
    Launch.locate host files outer program = .ok (.ofProgram path) →
    Launch.passable ⟨path, arguments, exports, clean⟩ = true →
    IsOverlay clean outer exports environment →
    host.start ⟨path, arguments, environment, ""⟩ files = .ok finish →
    Ends clean host outer exports files (.start program arguments)
      ⟨.ok finish.ending.code, finish.output, finish.complaints, finish.files⟩

variable {clean : Bool} {host : Host} {outer exports : Dict} {fs files : FileSystem}
  {program path : String} {arguments : List String}

/-- A program that is found is found at a path, and nothing else is said about it yet. -/
theorem locate_cases (host : Host) (files : FileSystem) (outer : Dict) (program : String) :
    (∃ fault, Launch.locate host files outer program = .error fault) ∨
      ∃ path, Launch.locate host files outer program = .ok (.ofProgram path) := by
  unfold Launch.locate
  dsimp only
  split
  next path _ => exact .inr ⟨path, rfl⟩
  next => exact .inl ⟨_, rfl⟩

/-- All that a launch is given is what was asked for, since it had nothing before. -/
theorem launchIn_eq (h : Launch.locate host files outer program = .ok (.ofProgram path)) :
    launchIn host files outer exports clean program arguments =
      .ok ⟨path, arguments, exports, clean⟩ := by
  -- Nothing was said before, so nothing is left of what is laid over.
  have hown : Dict.empty.merge exports = exports := by
    refine Dict.ext_get? fun name => ?_
    simp
  unfold launchIn
  rw [h]
  simp only [Launch.ofProgram, Launch.withArguments, Launch.withVariables, Launch.withClean, hown,
    List.nil_append]

theorem isOverlay_environment (launch : Launch) (outer : Dict) :
    IsOverlay launch.clean outer launch.own (launch.environment outer) := by
  intro name
  cases hclean : launch.clean with
  | true => rw [Launch.get?_environment_clean _ _ _ hclean, if_pos rfl, Option.or_none]
  | false => rw [Launch.get?_environment_inherited _ _ _ hclean, if_neg Bool.false_ne_true]

theorem ends_print (form : Rendering) :
    Ends clean host outer exports files (.print form) (.done (printed form exports) files) := by
  by_cases hblank : form.render exports = ""
  · rw [printed, if_pos (beq_iff_eq.mpr hblank)]
    exact .blank hblank
  · rw [printed, if_neg fun hc => hblank (beq_iff_eq.mp hc)]
    exact .printed hblank

theorem ends_start (hlocate : Launch.locate host files outer program = .ok (.ofProgram path)) :
    Ends clean host outer exports files (.start program arguments)
      ((Plan.start ⟨path, arguments, exports, clean⟩).carryOut host outer files) := by
  have hoverlay := isOverlay_environment ⟨path, arguments, exports, clean⟩ outer
  unfold Plan.carryOut
  dsimp only
  unfold Launch.run
  -- The machine is asked only if all that it is handed can be handed to it.
  cases hpassable : Launch.passable ⟨path, arguments, exports, clean⟩ with
  | false => exact .unpassable hlocate hpassable
  | true =>
      dsimp only
      rw [if_pos rfl]
      cases hstart : host.start ⟨path, arguments,
          Launch.environment ⟨path, arguments, exports, clean⟩ outer, ""⟩ files with
      | error refusal => exact .refused hlocate hpassable hoverlay hstart
      | ok finish => exact .started hlocate hpassable hoverlay hstart

variable {settings : Settings} {home : String} {request : RunRequest} {list : Option String}
  {db : Database} {opened : FileSystem} {action : RunAction}

/-- A request that says what to do is planned once the store has been opened and closed again, and
it ends as it was planned. -/
theorem run_of_plan {p : Plan} (haction : request.action = .ok action)
    (hopen : Database.openAt fs (settings.storePath home) = (.ok db, opened))
    (h : plan db request list host outer (db.close opened) = .ok p) :
    run settings home request list host outer fs = p.carryOut host outer (db.close opened) := by
  simp only [run, haction, hopen, h]

theorem run_of_no_plan {fault : Fault} (haction : request.action = .ok action)
    (hopen : Database.openAt fs (settings.storePath home) = (.ok db, opened))
    (h : plan db request list host outer (db.close opened) = .error fault) :
    run settings home request list host outer fs = .failed fault (db.close opened) := by
  simp only [run, haction, hopen, h]

/-- There is no plan if the profiles cannot be resolved. -/
theorem plan_of_fault {fault : Fault} (haction : request.action = .ok action)
    (h : resolveProfiles db (request.profileKeys list) = .error fault) :
    plan db request list host outer files = .error fault := by
  simp only [plan, haction, environment, h]

theorem plan_print {form : Rendering} (haction : request.action = .ok (.print form))
    (h : resolveProfiles db (request.profileKeys list) = .ok exports) :
    plan db request list host outer files = .ok (.print (printed form exports)) := by
  simp only [plan, haction, environment, h]

/-- Nor is there one if the program is not found. -/
theorem plan_missing {fault : ChildFault}
    (haction : request.action = .ok (.start program arguments))
    (h : resolveProfiles db (request.profileKeys list) = .ok exports)
    (hlocate : Launch.locate host files outer program = .error fault) :
    plan db request list host outer files = .error (.child fault) := by
  simp only [plan, haction, environment, h, launchIn, hlocate, Except.map]

theorem plan_start (haction : request.action = .ok (.start program arguments))
    (h : resolveProfiles db (request.profileKeys list) = .ok exports)
    (hlocate : Launch.locate host files outer program = .ok (.ofProgram path)) :
    plan db request list host outer files =
      .ok (.start ⟨path, arguments, exports, request.cleanEnvironment⟩) := by
  simp only [plan, haction, environment, h, launchIn_eq hlocate, Except.map]

/-- A request whose profiles can be resolved ends in one of the ways that there are. -/
theorem ends_run (haction : request.action = .ok action)
    (hopen : Database.openAt fs (settings.storePath home) = (.ok db, opened))
    (h : resolveProfiles db (request.profileKeys list) = .ok exports) :
    Ends request.cleanEnvironment host outer exports (db.close opened) action
      (run settings home request list host outer fs) := by
  cases action with
  | print form =>
      rw [run_of_plan haction hopen (plan_print haction h)]
      exact ends_print form
  | start program arguments =>
      -- Only the look-up of the program can still fail before the plan is made.
      rcases locate_cases host (db.close opened) outer program with
        ⟨fault, hlocate⟩ | ⟨path, hlocate⟩
      · rw [run_of_no_plan haction hopen (plan_missing haction h hlocate)]
        exact .missing hlocate
      · rw [run_of_plan haction hopen (plan_start haction h hlocate)]
        exact ends_start hlocate

/-- A request comes to all or to nothing. One that does not say what to do fails with the fault of
this. Otherwise, if the profiles cannot be resolved together, it fails with the fault of the first
of them. In both cases it fails on every machine alike, with nothing printed and no program started.
If all of them can be resolved, the request ends as what they export demands. The entries that are
stored are those that the profiles are taken from, and they stay stored. -/
theorem run_of_openAt (request : RunRequest) (list : Option String) (host : Host) (outer : Dict)
    (hopen : Database.openAt fs (settings.storePath home) = (.ok db, opened)) :
    let keys := request.profileKeys list
    let files := db.close opened
    let ending := run settings home request list host outer fs
    (∀ fault, request.action = .error fault → ending = .failed fault fs) ∧
      (∀ action fault, request.action = .ok action →
        resolveProfiles db keys = .error fault → ending = .failed fault files) ∧
      (∀ action exports, request.action = .ok action → resolveProfiles db keys = .ok exports →
        Ends request.cleanEnvironment host outer exports files action ending) ∧
      ((∃ exports, resolveProfiles db keys = .ok exports) ↔ ∀ key ∈ keys, Resolvable db key) ∧
      ∀ place access, db.keeping = .file place access →
        db.table.rows = fs.stored place ∧
          FileSystem.entry? files place = some (.database (fs.stored place)) := by
  intro keys files ending
  refine ⟨fun fault haction => ?_, fun action fault haction hfault => ?_,
    fun action exports haction hexports => ends_run haction hopen hexports,
    exists_resolveProfiles_iff, fun place access hkeeping => ?_⟩
  · simp only [ending, run, haction]
  · exact run_of_no_plan haction hopen (plan_of_fault haction hfault)
  · -- Opening and closing leave the rows of the file as they were.
    have hshows := Database.shows_of_openAt hopen hkeeping
    exact ⟨hshows.rows_eq, hshows.entry?_eq⟩

/-- A machine with one program, which prints its environment. -/
def printer : Host where
  isProgram _ path := path == "/bin/env"
  start start files := .ok ⟨.exited 0, Rendering.assignments start.environment, "", files⟩

/-- A database with one profile, which exports one variable. -/
def shelf : Database :=
  ⟨"s.db", .file ["work", "s.db"] ⟨true, true, false, .shared, none⟩,
    ⟨[("base", "env:\n  A: b\n")]⟩, .sound, false, false⟩

/-- The files with this database. -/
def shelved : FileSystem := FileSystem.fresh.put ["work", "s.db"] (.database shelf.table.rows)

/-- A program finds in its environment what the profile exports, and what was there before under
other names. -/
theorem run_of_openAt_printer :
    let settings := { Settings.standard with store := ⟨some "s.db"⟩ }
    let outer := Dict.ofList [("A", "0"), ("B", "1"), ("PATH", "/bin")]
    let request : RunRequest := ⟨["base"], false, false, false, ["env", "--", ""]⟩
    Database.openAt shelved (settings.storePath "/home") = (.ok shelf, shelved) ∧
      request.action = .ok (.start "env" ["--", ""]) ∧
      resolveProfiles shelf (request.profileKeys none) = .ok (.ofList [("A", "b")]) ∧
      Ends false printer outer (.ofList [("A", "b")]) shelved (.start "env" ["--", ""])
        (run settings "/home" request none printer outer shelved) ∧
      shelf.keeping = .file ["work", "s.db"] ⟨true, true, false, .shared, none⟩ ∧
      shelf.table.rows = shelved.stored ["work", "s.db"] ∧
      shelved.entry? ["work", "s.db"] =
        some (.database (shelved.stored ["work", "s.db"])) := by
  have hopen : Database.openAt shelved
      ({ Settings.standard with store := ⟨some "s.db"⟩ }.storePath "/home") =
        (.ok shelf, shelved) := by
    rfl
  have hbase : resolveProfile shelf "base" = .ok ⟨.empty, .ofList [("A", "b")]⟩ :=
    resolveProfile_eq_of_within 1 (by decide +kernel)
  -- The profiles are resolved one by one, since the resolver itself does not compute.
  have hexports : resolveProfiles shelf ["base"] = .ok (.ofList [("A", "b")]) := by
    rw [resolveProfiles_eq_gather, gather_cons_ok hbase]
    decide +kernel
  rcases run_of_openAt ⟨["base"], false, false, false, ["env", "--", ""]⟩ none printer
    (.ofList [("A", "0"), ("B", "1"), ("PATH", "/bin")]) hopen with ⟨_, _, hends, _, hstored⟩
  exact ⟨hopen, rfl, hexports, hends _ _ rfl hexports, rfl, hstored _ _ rfl⟩

end Command

end EnvProfiles
