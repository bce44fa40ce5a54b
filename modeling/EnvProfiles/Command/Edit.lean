import EnvProfiles.Command.Completion
import EnvProfiles.Launch
import EnvProfiles.Profile.Document

/-!
# Editing

A text is edited in a file of its own, a draft, with the program that the user
has chosen for it. A text that was not changed is not written. One that was
changed is written even if it is no profile any more, so that nobody's work is
lost; but if the editor says that something went wrong, nothing is.

## Main definitions

* `Verdict`: What became of a text.
* `Command.keep`: Stores an edited text.
* `Command.edit`: Has a text edited and stores it.
-/

namespace EnvProfiles

/-- What became of an edited text. -/
inductive Verdict where
  | unchanged
  | saved
  /-- The text was stored, and is no profile. -/
  | savedUnreadable
deriving DecidableEq, Repr

namespace Command

/-- Stores what became of a text, unless it is the same as before. -/
def keep {σ : Type} [KeyStore σ] (store : σ) (key before after : String) :
    Except Fault (Verdict × σ) :=
  if before = after then .ok (.unchanged, store)
  else
    let verdict := match Document.parse key after with
      | .ok _ => .saved
      | .error _ => .savedUnreadable
    match KeyStore.set store key after with
    | .ok store => .ok (verdict, store)
    | .error fault => .error (.store fault)

/-- The variable of the environment that names the editor. -/
def editorVariable : String := "EDITOR"

/-- The path of the draft of a key. A slash cannot be part of a name. -/
def draftPath (key : String) : String :=
  Path.join "/tmp" (key.map (fun c => if c == '/' then '_' else c) ++ "draft.yml")

/-- The launch of an editor, whose command may hold arguments, for a draft. -/
def editorLaunch (host : Host) (fs : FileSystem) (outer : Dict) (command draft : String) :
    Except Fault Launch :=
  match words command with
  | [] => .error (.fatal "empty editor command")
  | program :: arguments =>
    match Launch.locate host fs outer program with
    | .error fault => .error (.child fault)
    | .ok launch => .ok (launch.withArguments (arguments ++ [draft]))

/-- What an editor leaves behind: the edited text, unless it reports by its code that something went
wrong or has removed the draft. -/
def editedText (key draft : String) (finish : Finish) : Except Fault String :=
  let code := finish.ending.code
  if code = 0 then
    match finish.files.read draft with
    | .ok text => .ok text
    | .error refusal => .error (.files (.refused draft refusal.detail))
  else
    .error (.fatal ("editor exited with code " ++ toString code ++ "; '" ++ key ++
      "' left unchanged"))

/-- The files without a draft, which may be gone already. -/
def dropDraft (fs : FileSystem) (draft : String) : FileSystem :=
  match fs.remove draft with
  | .ok fs => fs
  | .error _ => fs

/-- Has a text edited in a draft. The outcome is the edited text; of what the editor does besides,
the completion tells. -/
def editDraft (key before command : String) (host : Host) (outer : Dict) (fs : FileSystem) :
    Except Fault String × Completion :=
  let draft := draftPath key
  let failed (fault : Fault) (fs : FileSystem) : Except Fault String × Completion :=
    (.error fault, .failed fault fs)
  match fs.write draft before with
  | .error refusal => failed (.other refusal.detail) fs
  | .ok fs =>
    match editorLaunch host fs outer command draft with
    | .error fault => failed fault (dropDraft fs draft)
    | .ok launch =>
      match launch.run host outer fs with
      | .error fault => failed (.child fault) (dropDraft fs draft)
      | .ok finish =>
        let text := editedText key draft finish
        (text, ⟨text.map fun _ => 0, finish.output, finish.complaints,
          dropDraft finish.files draft⟩)

/-- Has the text of a key of an open store edited and stores what became of it. -/
def editStored (db : Database) (key command : String) (host : Host) (outer : Dict)
    (fs : FileSystem) : Database × Completion :=
  match KeyStore.get? db key with
  | .error fault => (db, .failed (.store fault) fs)
  | .ok stored =>
    let before := stored.getD ""
    match editDraft key before command host outer fs with
    | (.error _, c) => (db, c)
    | (.ok after, c) =>
      -- The editor may have done anything to the file of the store.
      let (db, fs) := db.observe c.files
      match keep db key before after with
      | .ok (_, db) => (db, { c with files := fs })
      | .error fault => (db, { c with outcome := .error fault, files := fs })

/-- Has the text of a key edited and stores what became of it. The store is not opened if there is
no editor. -/
def edit (settings : Settings) (home key : String) (host : Host) (outer : Dict)
    (fs : FileSystem) : Completion :=
  match settings.editorCommand (outer.get? editorVariable) with
  | .error fault => .failed (.child fault) fs
  | .ok command => withStore settings home fs fun db fs => editStored db key command host outer fs

end Command

end EnvProfiles
