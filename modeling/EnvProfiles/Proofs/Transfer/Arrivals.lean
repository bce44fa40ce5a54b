import EnvProfiles.Proofs.Files.Reading
import EnvProfiles.Proofs.Stores.Steadiness
import EnvProfiles.Proofs.Transfer.FileNames
import EnvProfiles.Proofs.Transfer.Import

/-!
# What Arrives in a Store

What a store holds after files have been imported into it, told for every key.
Two files can stand for one key, `a` and `a.yml` for the key `a`. Files are read
in the order of their names, and `a.yml` comes later, so the file with the
extension decides. If there is none, the file with the bare name does, unless
its name ends in the extension and so stands for another key. If there is
neither, the key keeps what it had.

The files are read one after the other, and one that cannot be read ends the
import. What has been read before it has arrived by then. This is the same
statement again, with the files up to there only. So it is proved for any row of
files in ascending order: one more file at the front is put into the store first,
and those behind it may write over it.

Directories and links are passed over, and the import does not look into them.

## Main definitions

* `Command.Arrives`: What a store holds once texts have arrived.
* `Command.textsRead`: The texts of files, as they are read.
* `Command.Passed`: Files have been read and stored one after the other.
* `Command.StopsAt`: Why an import ends at a file.
* `Command.Readable`: A directory that an import can look into.
* `Command.textsOf`: The texts of files of a directory.

## Theorems

* `Command.Arrives.cons`: One more file at the front.
* `Command.Arrives.again`: What has arrived can arrive again.
* `Command.readAll_passed`: How far a run over files comes.
* `Command.readAll_again`: A run over files that has succeeded succeeds again.
* `Command.importAll_arrives`: What an import comes to.
-/

namespace EnvProfiles

namespace Command

/-- What a store holds once texts have arrived from files. -/
structure Arrives (settings : ExportSettings) (texts : String → Option String) (c c' : Contents) :
    Prop where
  /-- A key has the text of the file with the extension, if there is one. -/
  extended : ∀ {key text}, key ≠ "" → texts (settings.fileName key) = some text →
    c' key = some text
  /-- Otherwise it has the text of the file with its own name, if that is no name of another key's
  file. -/
  plain : ∀ {key text}, (key ≠ "" → texts (settings.fileName key) = none) →
    ¬ settings.IsExtended key → texts key = some text → c' key = some text
  /-- Otherwise it has what it had. -/
  kept : ∀ {key}, (key ≠ "" → texts (settings.fileName key) = none) →
    (¬ settings.IsExtended key → texts key = none) → c' key = c key

variable {settings : ExportSettings} {texts : String → Option String} {c c' c'' : Contents}
  {fs : FileSystem} {dir : Location} {path file text : String} {files : List String}

namespace Arrives

theorem refl (settings : ExportSettings) (c : Contents) :
    Arrives settings Contents.empty c c :=
  ⟨fun _ h => (nomatch h), fun _ _ h => (nomatch h), fun _ _ => rfl⟩

/-- A file that comes before all others is put into the store first. -/
theorem cons (h : Arrives settings texts (c.set (settings.keyFor file) text) c')
    (hfirst : ∀ name found, texts name = some found → file < name) :
    Arrives settings (Contents.set texts file text) c c' := by
  have hfresh : texts file = none :=
    Option.eq_none_iff_forall_ne_some.mpr fun found hc =>
      String.lt_irrefl file (hfirst file found hc)
  -- Where no text is found with the file, none was found without it.
  have hothers : ∀ {name}, Contents.set texts file text name = none →
      name ≠ file ∧ texts name = none := by
    intro name hname
    rw [Contents.set] at hname
    split at hname
    next => cases hname
    next hne => exact ⟨hne, hname⟩
  refine ⟨fun {key found} hkey hfound => ?_, fun {key found} hnone hplain hfound => ?_,
    fun {key} hnone habsent => ?_⟩
  · rw [Contents.set] at hfound
    split at hfound
    next hfile =>
      -- The bare name comes before the one with the extension, so it is not among the others.
      have hbare : ¬ settings.IsExtended key → texts key = none := fun _ =>
        Option.eq_none_iff_forall_ne_some.mpr fun other hc =>
          String.lt_asymm (hfirst key other hc) (hfile ▸ ExportSettings.lt_fileName settings key)
      rw [h.kept (fun _ => hfile ▸ hfresh) hbare, Contents.set,
        if_pos (ExportSettings.keyFor_eq_iff.mpr (.inl ⟨hkey, hfile.symm⟩)).symm]
      exact hfound
    next => exact h.extended hkey hfound
  · have hnone' : key ≠ "" → texts (settings.fileName key) = none := fun hkey =>
      (hothers (hnone hkey)).2
    rw [Contents.set] at hfound
    split at hfound
    next hfile =>
      subst hfile
      rw [h.kept hnone' fun _ => hfresh, Contents.set,
        if_pos (ExportSettings.keyFor_eq_iff.mpr (.inr ⟨rfl, hplain⟩)).symm]
      exact hfound
    next => exact h.plain hnone' hplain hfound
  · -- The new file stands for a key that has a text now, so for another one.
    have hne : key ≠ settings.keyFor file := by
      intro hc
      rcases ExportSettings.keyFor_eq_iff.mp hc.symm with ⟨hkey, hfile⟩ | ⟨hfile, hplain⟩
      · exact (hothers (hnone hkey)).1 hfile.symm
      · exact (hothers (habsent hplain)).1 hfile.symm
    rw [h.kept (fun hkey => (hothers (hnone hkey)).2) fun hplain => (hothers (habsent hplain)).2,
      Contents.set, if_neg hne]

/-- What has arrived can arrive again, and nothing changes. -/
theorem again (h : Arrives settings texts c c') (h' : Arrives settings texts c' c'') :
    c'' = c' := by
  funext key
  -- What a key has afterwards is settled by the files alone, unless it has none of its own.
  by_cases hnone : key ≠ "" → texts (settings.fileName key) = none
  · by_cases habsent : ¬ settings.IsExtended key → texts key = none
    · exact h'.kept hnone habsent
    · obtain ⟨hplain, hsome⟩ := Classical.not_imp.mp habsent
      obtain ⟨found, hfound⟩ := Option.ne_none_iff_exists'.mp hsome
      rw [h'.plain hnone hplain hfound, h.plain hnone hplain hfound]
  · obtain ⟨hkey, hsome⟩ := Classical.not_imp.mp hnone
    obtain ⟨found, hfound⟩ := Option.ne_none_iff_exists'.mp hsome
    rw [h'.extended hkey hfound, h.extended hkey hfound]

end Arrives

/-! ### Rows of files -/

/-- The texts of files, as they are read along their paths. -/
def textsRead (fs : FileSystem) (path : String) (files : List String) (name : String) :
    Option String :=
  if name ∈ files then (fs.read (Path.join path name)).toOption else none

theorem textsRead_eq_some_iff :
    textsRead fs path files file = some text ↔
      file ∈ files ∧ fs.read (Path.join path file) = .ok text := by
  rw [textsRead]
  split
  next hmem =>
    rw [and_iff_right hmem]
    cases fs.read (Path.join path file) with
    | error refusal => exact ⟨fun h => (nomatch h), fun h => nomatch h⟩
    | ok found =>
        exact ⟨fun h => congrArg _ (Option.some.inj h), fun h => congrArg _ (Except.ok.inj h)⟩
  next hmem => exact ⟨fun h => (nomatch h), fun h => absurd h.1 hmem⟩

theorem textsRead_nil (fs : FileSystem) (path : String) : textsRead fs path [] = Contents.empty :=
  funext fun _ => if_neg List.not_mem_nil

theorem textsRead_cons (h : fs.read (Path.join path file) = .ok text) :
    textsRead fs path (file :: files) = Contents.set (textsRead fs path files) file text := by
  funext name
  rw [textsRead, Contents.set]
  by_cases hname : name = file
  · rw [if_pos hname, hname, if_pos List.mem_cons_self, h]
    rfl
  · rw [if_neg hname, textsRead]
    simp only [List.mem_cons, hname, false_or]

/-- Files have been read and stored one after the other, and each has been told of. -/
structure Passed (settings : ExportSettings) (path : String) (fs : FileSystem)
    (files : List String) (c c' : Contents) (output : String) : Prop where
  read : ∀ file ∈ files, ∃ text, fs.read (Path.join path file) = .ok text
  arrives : Arrives settings (textsRead fs path files) c c'
  output_eq : output =
    String.join (files.map fun file => "Imported entry: " ++ settings.keyFor file ++ "\n")

namespace Passed

theorem nil (settings : ExportSettings) (path : String) (fs : FileSystem) (c : Contents) :
    Passed settings path fs [] c c "" where
  read _ h := absurd h List.not_mem_nil
  arrives := textsRead_nil fs path ▸ .refl settings c
  output_eq := rfl

/-- One more file at the front. -/
theorem cons {output : String} (h : Passed settings path fs files
      (c.set (settings.keyFor file) text) c' output)
    (hread : fs.read (Path.join path file) = .ok text) (hfirst : ∀ name ∈ files, file < name) :
    Passed settings path fs (file :: files) c c'
      ("Imported entry: " ++ settings.keyFor file ++ "\n" ++ output) where
  read name hname := by
    rcases List.mem_cons.mp hname with rfl | hname
    · exact ⟨text, hread⟩
    · exact h.read name hname
  arrives := by
    rw [textsRead_cons hread]
    exact h.arrives.cons fun name _ hname => hfirst name (textsRead_eq_some_iff.mp hname).1
  output_eq := by rw [h.output_eq, List.map_cons, String.join_cons]

end Passed

variable {σ : Type} [KeyStore σ] {store : σ}

/-- Why an import ends at a file: the file cannot be read, or the store does not take its text. -/
inductive StopsAt (settings : ExportSettings) (path : String) (fs : FileSystem) (store : σ)
    (file : String) : Fault → Prop
  | unread {refusal : Refusal} : fs.read (Path.join path file) = .error refusal →
    StopsAt settings path fs store file (refused (Path.join path file) refusal)
  | untaken {text : String} {cause : StoreFault} : fs.read (Path.join path file) = .ok text →
    KeyStore.set store (settings.keyFor file) text = .error cause →
    StopsAt settings path fs store file (.store cause)

theorem readAll_cons_of_unread {refusal : Refusal} (files : List String) (store : σ)
    (hread : fs.read (Path.join path file) = .error refusal) :
    readAll settings path fs (file :: files) store =
      ⟨.error (refused (Path.join path file) refusal), store, ""⟩ := by
  conv_lhs => unfold readAll
  simp only [hread]

theorem readAll_cons_of_untaken {cause : StoreFault} (files : List String)
    (hread : fs.read (Path.join path file) = .ok text)
    (hset : KeyStore.set store (settings.keyFor file) text = .error cause) :
    readAll settings path fs (file :: files) store = ⟨.error (.store cause), store, ""⟩ := by
  conv_lhs => unfold readAll
  simp only [hread, hset]

/-- What a run over files comes to depends on what is read of them, and on nothing else. -/
theorem readAll_congr {fs' : FileSystem}
    (h : ∀ file ∈ files, fs'.read (Path.join path file) = fs.read (Path.join path file)) :
    readAll settings path fs' files store = readAll settings path fs files store := by
  induction files generalizing store with
  | nil => rfl
  | cons file files ih =>
      -- The run looks at the files only by reading them, one after the other.
      have hfile := h file List.mem_cons_self
      cases hread : fs.read (Path.join path file) with
      | error refusal =>
          rw [readAll_cons_of_unread files store hread,
            readAll_cons_of_unread files store (hfile.trans hread)]
      | ok text =>
          cases hset : KeyStore.set store (settings.keyFor file) text with
          | error cause =>
              rw [readAll_cons_of_untaken files hread hset,
                readAll_cons_of_untaken files (hfile.trans hread) hset]
          | ok changed =>
              rw [readAll_cons files hread hset, readAll_cons files (hfile.trans hread) hset,
                ih fun name hname => h name (List.mem_cons_of_mem _ hname)]

variable [ContentStore σ]

/-- A store that can be changed takes every text, so an import ends at a file that cannot be read
only. -/
theorem StopsAt.unread_of_holds {fault : Fault} (h : StopsAt settings path fs store file fault)
    (hstore : ContentStore.Holds store c) :
    ∃ refusal, fs.read (Path.join path file) = .error refusal := by
  cases h with
  | unread hread => exact ⟨_, hread⟩
  | untaken _ hset =>
      obtain ⟨changed, hchanged, _⟩ := ContentStore.set_eq hstore (settings.keyFor file) _
      exact nomatch hset.symm.trans hchanged

variable [SteadyStore σ]

/-- A run over files in ascending order passes all of them, or those before the one it ends at. A
store into which one of them has been put can be changed from then on. -/
theorem readAll_passed (settings : ExportSettings) (path : String) (fs : FileSystem)
    (hstore : Reads store c) (hfiles : files.Pairwise (· < ·)) :
    let result := readAll settings path fs files store
    ∃ before rest c', files = before ++ rest ∧ Reads result.store c' ∧
      (before = [] ∧ result.store = store ∨ ContentStore.Holds result.store c') ∧
      Passed settings path fs before c c' result.output ∧
      (rest = [] ∧ result.outcome = .ok (before.map settings.keyFor) ∨
        ∃ file after fault, rest = file :: after ∧ result.outcome = .error fault ∧
          StopsAt settings path fs store file fault) := by
  induction files generalizing store c with
  | nil =>
      exact ⟨[], [], c, rfl, hstore, .inl ⟨rfl, rfl⟩, .nil settings path fs c, .inl ⟨rfl, rfl⟩⟩
  | cons file files ih =>
      -- The first file is read and stored, or the run ends with it.
      obtain ⟨hfirst, hrest⟩ := List.pairwise_cons.mp hfiles
      cases hread : fs.read (Path.join path file) with
      | error refusal =>
          rw [readAll_cons_of_unread files store hread]
          exact ⟨[], file :: files, c, rfl, hstore, .inl ⟨rfl, rfl⟩, .nil settings path fs c,
            .inr ⟨file, files, _, rfl, rfl, .unread hread⟩⟩
      | ok text =>
          cases hset : KeyStore.set store (settings.keyFor file) text with
          | error cause =>
              rw [readAll_cons_of_untaken files hread hset]
              exact ⟨[], file :: files, c, rfl, hstore, .inl ⟨rfl, rfl⟩, .nil settings path fs c,
                .inr ⟨file, files, _, rfl, rfl, .untaken hread hset⟩⟩
          | ok changed =>
              have hchanged := SteadyStore.holds_of_set hstore hset
              obtain ⟨before, rest, c', rfl, hreads, hholds, hpassed, hend⟩ :=
                ih (ContentStore.reads hchanged) hrest
              have hholds' : ContentStore.Holds
                  (readAll settings path fs (before ++ rest) changed).store c' := by
                rcases hholds with ⟨_, hsame⟩ | hholds
                · rw [hsame] at hreads ⊢
                  exact (ContentStore.reads hchanged).unique hreads ▸ hchanged
                · exact hholds
              rw [readAll_cons _ hread hset]
              refine ⟨file :: before, rest, c', rfl, hreads, .inr hholds',
                hpassed.cons hread fun name hname => hfirst name (List.mem_append_left _ hname), ?_⟩
              rcases hend with ⟨hrest, houtcome⟩ | ⟨stop, after, fault, hrest, houtcome, hstops⟩
              · refine .inl ⟨hrest, ?_⟩
                dsimp only
                rw [houtcome]
                rfl
              · refine .inr ⟨stop, after, fault, hrest, ?_, ?_⟩
                · dsimp only
                  rw [houtcome]
                  rfl
                · -- The store has taken the text of the first file, so this is about reading.
                  cases hstops with
                  | unread hunread => exact .unread hunread
                  | untaken _ huntaken =>
                      obtain ⟨next, hnext, _⟩ := ContentStore.set_eq hchanged _ _
                      exact nomatch huntaken.symm.trans hnext

/-- A run over files passes all of them if each can be read and the store can be changed. -/
theorem readAll_passed_all (settings : ExportSettings) (hstore : Reads store c)
    (hfiles : files.Pairwise (· < ·)) (hholds : files = [] ∨ ContentStore.Holds store c)
    (hread : ∀ file ∈ files, ∃ text, fs.read (Path.join path file) = .ok text) :
    let result := readAll settings path fs files store
    result.outcome = .ok (files.map settings.keyFor) ∧
      ∃ c', Reads result.store c' ∧ Passed settings path fs files c c' result.output := by
  obtain ⟨before, rest, c', rfl, hreads, _, hpassed,
    ⟨rfl, houtcome⟩ | ⟨file, after, _, rfl, _, hstops⟩⟩ :=
    readAll_passed settings path fs hstore hfiles
  · rw [List.append_nil] at *
    exact ⟨houtcome, c', hreads, hpassed⟩
  · -- The run has ended at a file, but each can be read, and the store takes every text.
    obtain ⟨refusal, hrefusal⟩ := hstops.unread_of_holds (hholds.resolve_left (by simp))
    obtain ⟨text, htext⟩ := hread file (by simp)
    exact nomatch hrefusal.symm.trans htext

/-- A run over files that has succeeded has passed all of them. -/
theorem readAll_passed_of_ok {keys : List String} (hstore : Reads store c)
    (hfiles : files.Pairwise (· < ·))
    (h : (readAll settings path fs files store).outcome = .ok keys) :
    let result := readAll settings path fs files store
    keys = files.map settings.keyFor ∧
      ∃ c', Reads result.store c' ∧ (files = [] ∨ ContentStore.Holds result.store c') ∧
        Passed settings path fs files c c' result.output := by
  obtain ⟨before, rest, c', rfl, hreads, hholds, hpassed,
    ⟨rfl, houtcome⟩ | ⟨_, _, _, _, houtcome, _⟩⟩ :=
    readAll_passed settings path fs hstore hfiles
  · rw [List.append_nil] at *
    exact ⟨Except.ok.inj (h.symm.trans houtcome), c', hreads, hholds.imp_left And.left, hpassed⟩
  · exact nomatch h.symm.trans houtcome

/-- A run over files that has failed has passed those before the one it has ended at. -/
theorem readAll_passed_of_error {fault : Fault} (hstore : Reads store c)
    (hfiles : files.Pairwise (· < ·))
    (h : (readAll settings path fs files store).outcome = .error fault) :
    let result := readAll settings path fs files store
    ∃ before file after, files = before ++ file :: after ∧
      StopsAt settings path fs store file fault ∧
      ∃ c', Reads result.store c' ∧ Passed settings path fs before c c' result.output := by
  obtain ⟨before, rest, c', hsplit, hreads, _, hpassed,
    ⟨_, houtcome⟩ | ⟨file, after, found, rfl, houtcome, hstops⟩⟩ :=
    readAll_passed settings path fs hstore hfiles
  · exact nomatch h.symm.trans houtcome
  · cases h.symm.trans houtcome
    exact ⟨before, file, after, hsplit, hstops, c', hreads, hpassed⟩

/-- A run over files that has succeeded succeeds again, and leaves the store with what it holds. -/
theorem readAll_again {keys : List String} (hstore : Reads store c)
    (hfiles : files.Pairwise (· < ·))
    (h : (readAll settings path fs files store).outcome = .ok keys) :
    let result := readAll settings path fs files store
    let again := readAll settings path fs files result.store
    again.outcome = .ok keys ∧ again.output = result.output ∧
      ∃ c', Reads result.store c' ∧ Reads again.store c' := by
  obtain ⟨rfl, c', hreads, hholds, hpassed⟩ := readAll_passed_of_ok hstore hfiles h
  obtain ⟨houtcome, c'', hreads', hpassed'⟩ :=
    readAll_passed_all settings hreads hfiles hholds hpassed.read
  refine ⟨houtcome, hpassed'.output_eq.trans hpassed.output_eq.symm, c', hreads, ?_⟩
  rw [← hpassed.arrives.again hpassed'.arrives]
  exact hreads'

/-! ### Directories -/

/-- The files that an import reads are those in the directory. -/
theorem listsFiles_regularFiles (hfs : fs.WellFormed) (dir : Location) :
    fs.ListsFiles dir (regularFiles (fs.children dir)) where
  ascending := regularFiles_ascending (hfs.children_ascending dir)
  mem_iff name := by
    rw [mem_regularFiles]
    exact exists_congr fun entry => and_congr hfs.mem_children
      ⟨fun h => ⟨h.1, h.2⟩, fun h => ⟨h.ne_directory, h.ne_link⟩⟩

/-- A directory that a path leads to, with names such as the system lets in. -/
structure Readable (fs : FileSystem) (path : String) (dir : Location) : Prop where
  wellFormed : fs.WellFormed
  locate : fs.locate path = .ok dir
  directory : fs.entry? dir = some .directory
  names : fs.ProperNames dir

theorem Readable.textIn_of_read (h : Readable fs path dir) (hfiles : fs.ListsFiles dir files)
    (hfile : file ∈ files) (hread : fs.read (Path.join path file) = .ok text) :
    fs.textIn dir file = some text := by
  obtain ⟨entry, hentry, hisFile⟩ := (hfiles.mem_iff file).mp hfile
  exact h.wellFormed.textIn_of_read h.locate h.directory (h.names file entry hentry) hentry hisFile
    hread

/-- The texts of files of a directory. -/
def textsOf (fs : FileSystem) (dir : Location) (files : List String) (name : String) :
    Option String :=
  if name ∈ files then fs.textIn dir name else none

namespace Readable

variable {before : List String}

/-- What is read of the files of a directory are the texts of these files. -/
theorem textsRead_eq (h : Readable fs path dir) (hfiles : fs.ListsFiles dir files)
    (hbefore : ∀ file ∈ before, file ∈ files)
    (hread : ∀ file ∈ before, ∃ text, fs.read (Path.join path file) = .ok text) :
    textsRead fs path before = textsOf fs dir before := by
  funext name
  rw [textsRead, textsOf]
  split
  next hname =>
    obtain ⟨text, htext⟩ := hread name hname
    rw [h.textIn_of_read hfiles (hbefore name hname) htext, htext]
    rfl
  next => rfl

theorem exists_textIn (h : Readable fs path dir) (hfiles : fs.ListsFiles dir files)
    (hbefore : ∀ file ∈ before, file ∈ files)
    (hread : ∀ file ∈ before, ∃ text, fs.read (Path.join path file) = .ok text) :
    ∀ file ∈ before, ∃ text, fs.textIn dir file = some text := fun file hfile =>
  (hread file hfile).imp fun _ htext => h.textIn_of_read hfiles (hbefore file hfile) htext

/-- All files together are all that has a text. -/
theorem textsOf_all (hfiles : fs.ListsFiles dir files) : textsOf fs dir files = fs.textIn dir := by
  funext name
  rw [textsOf]
  split
  next => rfl
  next hname =>
    -- A text is that of a file, and all files are among them.
    refine (Option.eq_none_iff_forall_ne_some.mpr fun text htext => hname ?_).symm
    exact (hfiles.mem_iff name).mpr (FileSystem.exists_file_of_textIn htext)

omit [ContentStore σ] [SteadyStore σ] in
/-- An import is a run over the files of its directory. -/
theorem importAll_eq_readAll (h : Readable fs path dir) (hfiles : fs.ListsFiles dir files)
    (store : σ) : importAll store path settings fs = readAll settings path fs files store := by
  rw [importAll_eq store h.locate h.directory,
    (listsFiles_regularFiles h.wellFormed dir).eq_of_sameFiles hfiles fun _ _ _ => Iff.rfl]

/-- What is read of a file is the same wherever the directory holds the same files. -/
theorem read_eq_of_sameFiles {fs' : FileSystem} {dir' : Location} (h : Readable fs path dir)
    (h' : Readable fs' path dir') (hfiles : fs.ListsFiles dir files)
    (hsame : fs.SameFiles dir fs' dir') (hfile : file ∈ files) :
    fs'.read (Path.join path file) = fs.read (Path.join path file) := by
  obtain ⟨entry, hentry, hisFile⟩ := (hfiles.mem_iff file).mp hfile
  have hentry' := (hsame file entry hisFile).mp hentry
  rw [h.wellFormed.read_join h.locate h.directory (h.names file entry hentry) hentry hisFile,
    h'.wellFormed.read_join h'.locate h'.directory (h'.names file entry hentry') hentry' hisFile]

end Readable

/-- After an import that has succeeded, the store holds what has arrived from all files of the
directory, and the same import changes nothing more. One that fails has stored what has arrived from
the files before the one it has ended at. All that counts of the directory are its files. -/
theorem importAll_arrives (settings : ExportSettings) (hstore : Reads store c)
    (h : Readable fs path dir) :
    let result := importAll store path settings fs
    ∃ files, fs.ListsFiles dir files ∧
      (∀ keys, result.outcome = .ok keys →
        keys = files.map settings.keyFor ∧
        result.output = String.join (keys.map fun key => "Imported entry: " ++ key ++ "\n") ∧
        (∀ file ∈ files, ∃ text, fs.textIn dir file = some text) ∧
        ∃ c', Reads result.store c' ∧ Arrives settings (fs.textIn dir) c c' ∧
          let again := importAll result.store path settings fs
          again.outcome = .ok keys ∧ again.output = result.output ∧ Reads again.store c') ∧
      (∀ fault, result.outcome = .error fault →
        ∃ before file after, files = before ++ file :: after ∧
          StopsAt settings path fs store file fault ∧
          result.output = String.join
            (before.map fun name => "Imported entry: " ++ settings.keyFor name ++ "\n") ∧
          (∀ name ∈ before, ∃ text, fs.textIn dir name = some text) ∧
          ∃ c', Reads result.store c' ∧ Arrives settings (textsOf fs dir before) c c') ∧
      (ContentStore.Holds store c →
        ((∃ keys, result.outcome = .ok keys) ↔
          ∀ file ∈ files, ∃ text, fs.read (Path.join path file) = .ok text)) ∧
      ∀ fs' dir', Readable fs' path dir' → fs.SameFiles dir fs' dir' →
        importAll store path settings fs' = result := by
  have hfiles := listsFiles_regularFiles h.wellFormed dir
  refine ⟨_, hfiles, fun keys hkeys => ?_, fun fault hfault => ?_,
    fun hholds => ⟨?_, fun hread => ?_⟩, fun fs' dir' h' hsame => ?_⟩
  · rw [h.importAll_eq_readAll hfiles] at hkeys ⊢
    rw [h.importAll_eq_readAll hfiles]
    obtain ⟨rfl, c', hreads, _, hpassed⟩ :=
      readAll_passed_of_ok hstore hfiles.ascending hkeys
    obtain ⟨hagain, hsameOutput, other, hother, hreads'⟩ :=
      readAll_again hstore hfiles.ascending hkeys
    have htexts := h.textsRead_eq hfiles (fun _ hfile => hfile) hpassed.read
    refine ⟨rfl, by rw [hpassed.output_eq, List.map_map]; rfl,
      h.exists_textIn hfiles (fun _ hfile => hfile) hpassed.read, c', hreads, ?_, hagain,
      hsameOutput, hreads.unique hother ▸ hreads'⟩
    -- What arrives was told along the paths, and is now told of the directory.
    rw [← Readable.textsOf_all hfiles, ← htexts]
    exact hpassed.arrives
  · rw [h.importAll_eq_readAll hfiles] at hfault ⊢
    obtain ⟨before, file, after, hsplit, hstops, c', hreads, hpassed⟩ :=
      readAll_passed_of_error hstore hfiles.ascending hfault
    have hbefore : ∀ name ∈ before, name ∈ regularFiles (fs.children dir) := fun name hname =>
      hsplit ▸ List.mem_append_left _ hname
    exact ⟨before, file, after, hsplit, hstops, hpassed.output_eq,
      h.exists_textIn hfiles hbefore hpassed.read, c', hreads,
      h.textsRead_eq hfiles hbefore hpassed.read ▸ hpassed.arrives⟩
  · rintro ⟨keys, hkeys⟩
    rw [h.importAll_eq_readAll hfiles] at hkeys
    obtain ⟨_, _, _, _, hpassed⟩ := readAll_passed_of_ok hstore hfiles.ascending hkeys
    exact hpassed.read
  · rw [h.importAll_eq_readAll hfiles]
    exact ⟨_, (readAll_passed_all settings hstore hfiles.ascending (.inr hholds) hread).1⟩
  · have hfiles' := listsFiles_regularFiles h'.wellFormed dir'
    -- The files have the same names in the same order, and each reads the same.
    have hlisting := hfiles.eq_of_sameFiles hfiles' hsame
    rw [h.importAll_eq_readAll hfiles, h'.importAll_eq_readAll hfiles', hlisting]
    exact readAll_congr fun file hfile => h.read_eq_of_sameFiles h' hfiles hsame hfile

/-- A directory with two files for one key, a file whose name is the extension alone, and a
directory and a link whose names end in the extension. -/
def crowded : FileSystem :=
  .ofPlaces
    [(["work"], .directory), (["work", "in"], .directory), (["work", "in", ".yml"], .text "dots"),
      (["work", "in", "a"], .text "bare"), (["work", "in", "a.yml"], .text "extended"),
      (["work", "in", "y.yml"], .link "a"), (["work", "in", "z.yml"], .directory),
      (["work", "in", "z.yml", "z.yml"], .text "below")]
    ["work"]

/-- A store with the key of two of these files, and with one that a directory is called after. -/
def stocked : MemoryStore := ⟨Dict.ofList [("a", "old"), ("z", "kept")]⟩

/-- The file with the extension decides, and what stands for no file is kept. -/
theorem importAll_crowded :
    Reads stocked stocked.dict.get? ∧ Readable crowded "in" ["work", "in"] ∧
    let result := importAll stocked "in" .standard crowded
    result.outcome = .ok [".yml", "a", "a"] ∧
      result.output = "Imported entry: .yml\nImported entry: a\nImported entry: a\n" ∧
      KeyStore.get? result.store "a" = .ok (some "extended") ∧
      KeyStore.get? result.store ".yml" = .ok (some "dots") ∧
      KeyStore.get? result.store "z" = .ok (some "kept") := by
  have hstore : Reads stocked stocked.dict.get? := ContentStore.reads rfl
  have hcrowded : Readable crowded "in" ["work", "in"] := by
    have hwellFormed : crowded.WellFormed := by decide +kernel
    refine ⟨hwellFormed, by rfl, by rfl, fun name entry hentry => ?_⟩
    have hnames : ∀ e ∈ crowded.found, ∀ part ∈ e.1, IsFileName part := by decide +kernel
    exact hnames _ ((hwellFormed.entry?_iff (List.cons_ne_nil _ _)).mp hentry) name (by simp)
  have houtcome : (importAll stocked "in" .standard crowded).outcome = .ok [".yml", "a", "a"] := by
    have hchildren : crowded.children ["work", "in"] = [(".yml", .text "dots"), ("a", .text "bare"),
        ("a.yml", .text "extended"), ("y.yml", .link "a"), ("z.yml", .directory)] :=
      List.mergeSort_of_pairwise (by decide +kernel)
    rw [importAll_eq stocked hcrowded.locate hcrowded.directory, hchildren]
    rfl
  obtain ⟨_, _, hall, _⟩ := importAll_arrives .standard hstore hcrowded
  obtain ⟨_, houtput, _, c', hreads, harrives, _⟩ := hall _ houtcome
  refine ⟨hstore, hcrowded, houtcome, houtput.trans (by decide +kernel), ?_, ?_, ?_⟩
  · rw [hreads.get?_eq, harrives.extended (by decide) (by rfl : _ = some "extended")]
  · have hplain : ¬ ExportSettings.standard.IsExtended ".yml" :=
      ExportSettings.stem?_eq_none_iff.mp (by rfl)
    rw [hreads.get?_eq, harrives.plain (fun _ => by rfl) hplain (by rfl : _ = some "dots")]
  · rw [hreads.get?_eq, harrives.kept (fun _ => by rfl) fun _ => by rfl]
    rfl

end Command

end EnvProfiles
