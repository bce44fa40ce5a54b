import EnvProfiles.Cli.Invocation

/-!
# Command Lines That Are Passed On

A command line that runs a program holds the command line of that program. Where
the inner one begins, every word stands for itself, also one that looks like an
option of the outer line, two hyphens, and an empty word. So whatever the words of
the inner line are, they arrive in their order and nothing is taken out of them.

The inner line begins after two hyphens, or with the first word that does not
begin with a hyphen. Before it stand the keys, each attached to its option: what
follows the equals sign is the key, whatever it looks like, so no key can be
mistaken for the beginning of the inner line.

What the scanner has found after some words is told step by step. In each step of
such a line it has settled everything that it has begun, and this is what makes
the steps follow each other.

## Main definitions

* `keyWord`: The word that names a key.

## Theorems

* `Scan.take_keyWord`, `Scan.take_hyphens`, `Scan.take_first`,
  `Scan.take_inner`: What each kind of word comes to.
* `Scan.run_keyWords`, `Scan.run_inner`: What rows of them come to.
* `readRequest_hyphens`, `readRequest_plain`: What is asked for.
* `ofWords_run`: The inner command line arrives untouched.
-/

namespace EnvProfiles.Cli

/-- The word that names a key, which is attached to its option. -/
def keyWord (key : String) : String := "--env=" ++ key

/-- What has been found, with more keys. -/
def Matches.addKeys (m : Matches) (keys : List String) : Matches :=
  { m with values := m.values ++ keys.map fun key => ("env", key) }

/-- What has been found, with more words. -/
def Matches.addWords (m : Matches) (words : List String) : Matches :=
  { m with words := m.words ++ words }

@[simp] theorem Matches.addKeys_nil (m : Matches) : m.addKeys [] = m := by simp [addKeys]

@[simp] theorem Matches.addKeys_addKeys (m : Matches) (keys more : List String) :
    (m.addKeys keys).addKeys more = m.addKeys (keys ++ more) := by simp [addKeys]

@[simp] theorem Matches.addWords_nil (m : Matches) : m.addWords [] = m := by simp [addWords]

@[simp] theorem Matches.addWords_addWords (m : Matches) (words more : List String) :
    (m.addWords words).addWords more = m.addWords (words ++ more) := by simp [addWords]

namespace Scan

/-- The inner command line has not begun, and nothing is left to settle. -/
def outer (m : Matches) : Scan := ⟨m, none, false⟩

/-- The inner command line has begun, and nothing is left to settle. -/
def inner (m : Matches) : Scan := ⟨m, none, true⟩

@[simp] theorem trailing_outer (m : Matches) : (outer m).trailing = false := rfl

@[simp] theorem trailing_inner (m : Matches) : (inner m).trailing = true := rfl

variable {form : CommandForm} {s next : Scan}

/-- A command that has no commands of its own takes in one word after the other. -/
theorem run_cons (hform : form.commands = []) {word : String} (words : List String)
    (h : take form s word = .ok next) : run form (word :: words) s = run form words next := by
  -- No word begins another command.
  have hcommand : form.command? word = none := by
    rw [CommandForm.command?, hform, List.lookup_nil]
  rw [run, hcommand, ite_self]
  simp only [h]

/-! ### One word -/

/-- A word with a key adds the key. What follows the first equals sign is taken as it is. -/
theorem take_keyWord (m : Matches) (key : String) :
    take runForm (outer m) (keyWord key) = .ok (outer (m.addKeys [key])) := by
  have hword : (keyWord key).toList = '-' :: '-' :: 'e' :: 'n' :: 'v' :: '=' :: key.toList := by
    rw [keyWord, String.toList_append]
    rfl
  have hlong : takeLong runForm (outer m) (keyWord key) ('e' :: 'n' :: 'v' :: '=' :: key.toList) =
      takeOption (outer m) ⟨"env", some 'e', .values⟩ (some (String.ofList key.toList)) := rfl
  rw [take, trailing_outer, if_neg Bool.false_ne_true, hword]
  exact hlong.trans (by rw [String.ofList_toList]; rfl)

/-- After two hyphens every word stands for itself. -/
theorem take_hyphens (form : CommandForm) (m : Matches) :
    take form (outer m) "--" = .ok (inner m) := rfl

/-- A word of the inner command line is added to its words, and so are all words after it. -/
theorem takeWord_eq (hrest : form.rest = true) (m : Matches) (trailing : Bool) (word : String) :
    takeWord form ⟨m, none, trailing⟩ word = .ok (inner (m.addWords [word])) := by
  rw [takeWord, if_pos hrest]
  rfl

theorem take_inner (hrest : form.rest = true) (m : Matches) (word : String) :
    take form (inner m) word = .ok (inner (m.addWords [word])) := by
  simp only [take, trailing_inner, if_true]
  exact takeWord_eq hrest m true word

/-- A word that does not begin with a hyphen begins the inner command line. -/
theorem take_first (hrest : form.rest = true) (m : Matches) {word : String}
    (hword : word.toList.head? ≠ some '-') :
    take form (outer m) word = .ok (inner (m.addWords [word])) := by
  -- The other three cases are of words that begin with a hyphen.
  rw [take, trailing_outer, if_neg Bool.false_ne_true]
  split
  next hcs => exact absurd (by rw [hcs]; rfl) hword
  next hcs => exact absurd (by rw [hcs]; rfl) hword
  next hcs => exact absurd (by rw [hcs]; rfl) hword
  next => exact takeWord_eq hrest m false word

/-! ### Rows of words -/

/-- All keys are added, in their order. -/
theorem run_keyWords (keys words : List String) (m : Matches) :
    run runForm (keys.map keyWord ++ words) (outer m) =
      run runForm words (outer (m.addKeys keys)) := by
  induction keys generalizing m with
  | nil => simp
  | cons key keys ih =>
      -- After a key the state is of the form that the induction is about.
      simp [run_cons rfl _ (take_keyWord m key), ih]

/-- All words of the inner command line are added, whatever they are. -/
theorem run_inner (hform : form.commands = []) (hrest : form.rest = true) (words : List String)
    (m : Matches) : run form words (inner m) = .ok (inner (m.addWords words), none) := by
  induction words generalizing m with
  | nil => simp [run]
  | cons word words ih => simp [run_cons hform _ (take_inner hrest m word), ih]

end Scan

/-! ### What is asked for -/

/-- The program and its arguments are all that is asked for besides the keys. -/
theorem runOf_command (keys : List String) (program : String) (arguments : List String) :
    runOf ((Matches.none.addKeys keys).addWords (program :: arguments)) =
      .ok (.run ⟨keys, false, false, false, program :: arguments⟩) := by
  have hkeys : ((Matches.none.addKeys keys).addWords (program :: arguments)).all "env" = keys := by
    induction keys with
    | nil => rfl
    | cons key keys ih => exact congrArg (key :: ·) ih
  rw [runOf, hkeys]
  rfl

theorem readRequest_run {words : List String} {m : Matches}
    (h : Scan.run runForm words .start = .ok (.inner m, none)) :
    readRequest "run" words = runOf m := by
  have hform : formOf "run" = runForm := rfl
  rw [readRequest, hform, h]
  rfl

variable (keys : List String) (program : String) (arguments : List String)

/-- After two hyphens all words are those of the inner command line. -/
theorem readRequest_hyphens :
    readRequest "run" (keys.map keyWord ++ "--" :: program :: arguments) =
      .ok (.run ⟨keys, false, false, false, program :: arguments⟩) := by
  rw [← runOf_command]
  refine readRequest_run ?_
  rw [show Scan.start = .outer .none from rfl, Scan.run_keyWords,
    Scan.run_cons rfl _ (Scan.take_hyphens runForm _), Scan.run_inner rfl rfl]

/-- Without hyphens the first word shows where the inner command line begins. -/
theorem readRequest_plain (h : program.toList.head? ≠ some '-') :
    readRequest "run" (keys.map keyWord ++ program :: arguments) =
      .ok (.run ⟨keys, false, false, false, program :: arguments⟩) := by
  rw [← runOf_command]
  refine readRequest_run ?_
  rw [show Scan.start = .outer .none from rfl, Scan.run_keyWords,
    Scan.run_cons rfl _ (Scan.take_first rfl _ h), Scan.run_inner rfl rfl]
  simp

/-- The words after the name of a command add what they ask for to what the environment alone comes
to. -/
theorem ofWords_command {words : List String} {request : Request}
    (h : readRequest "run" words = .ok request) (environment : Dict) :
    Invocation.ofWords ("run" :: words) environment =
      (Invocation.ofWords [] environment).map fun i => { i with request := some request } := by
  have hscan : Scan.run rootForm ("run" :: words) .start = .ok (.start, some ("run", words)) := rfl
  have hempty : Scan.run rootForm [] .start = .ok (.start, none) := rfl
  have hsettle : Scan.settle .start = .ok .start := rfl
  simp only [Invocation.ofWords, hscan, hempty, bind, Except.bind, h, hsettle, Except.map]
  -- The words of the command come after all options, so these are those of no words at all.
  cases optionsOf Scan.start.found environment with
  | error fault => rfl
  | ok options => rfl

/-- Without words, only an empty path in the environment is refused. -/
theorem ofWords_nil {environment : Dict} (h : environment.get? pathVariable ≠ some "") :
    Invocation.ofWords [] environment =
      .ok ⟨⟨environment.get? pathVariable, none, none, none, none⟩, none⟩ := by
  have hpath : pathOf .none environment = .ok (environment.get? pathVariable) := by
    rw [pathOf, show Matches.none.value? "path" = none from rfl]
    cases hget : environment.get? pathVariable with
    | none => rfl
    | some path =>
        have hne : (path == "") = false := beq_eq_false_iff_ne.mpr fun hc => h (hc ▸ hget)
        simp only [Check.run, hne, Bool.false_eq_true, if_false]
        rfl
  have hscan : Scan.run rootForm [] .start = .ok (.start, none) := rfl
  have hsettle : Scan.settle .start = .ok .start := rfl
  have hfound : Scan.start.found = .none := rfl
  simp only [Invocation.ofWords, hscan, hsettle, optionsOf, hfound, hpath, bind, Except.bind]
  rfl

/-- A command line that is passed on arrives untouched: after the keys and two hyphens, all words
are those of the program, the first one being its name. In whatever environment the line is read, it
adds exactly this request to what is read without any words, which only an empty path in the
environment can prevent. If the name of the program does not begin with a hyphen, the two hyphens
may be left out. -/
theorem ofWords_run (environment : Dict) :
    let request : RunRequest := ⟨keys, false, false, false, program :: arguments⟩
    let line := "run" :: (keys.map keyWord ++ "--" :: program :: arguments)
    let plainLine := "run" :: (keys.map keyWord ++ program :: arguments)
    Invocation.ofWords line environment =
        (Invocation.ofWords [] environment).map
          (fun i => { i with request := some (.run request) }) ∧
      (environment.get? pathVariable ≠ some "" → Invocation.ofWords line environment =
        .ok ⟨⟨environment.get? pathVariable, none, none, none, none⟩, some (.run request)⟩) ∧
      request.action = .ok (.start program arguments) ∧
      (program.toList.head? ≠ some '-' →
        Invocation.ofWords plainLine environment = Invocation.ofWords line environment) := by
  intro request line plainLine
  have hline := ofWords_command (readRequest_hyphens keys program arguments) environment
  refine ⟨hline, fun hpath => ?_, rfl, fun hfirst => ?_⟩
  · rw [hline, ofWords_nil hpath]
    rfl
  · rw [hline]
    exact ofWords_command (readRequest_plain keys program arguments hfirst) environment

/-- Words that look like options, two hyphens and an empty word among the arguments of a program,
and a key that looks like an option. -/
theorem ofWords_run_make :
    Dict.empty.get? pathVariable ≠ some "" ∧ "make".toList.head? ≠ some '-' ∧
      Invocation.ofWords ["run", "--env=base", "--env=-e", "make", "-e", "--", "", "--export"]
          .empty =
        .ok ⟨⟨none, none, none, none, none⟩, some (.run
          ⟨["base", "-e"], false, false, false, ["make", "-e", "--", "", "--export"]⟩)⟩ := by
  have hpath : Dict.empty.get? pathVariable ≠ some "" := by decide
  have hfirst : "make".toList.head? ≠ some '-' := by decide
  obtain ⟨_, hline, _, hplain⟩ :=
    ofWords_run ["base", "-e"] "make" ["-e", "--", "", "--export"] .empty
  exact ⟨hpath, hfirst, (hplain hfirst).trans (hline hpath)⟩

end EnvProfiles.Cli
