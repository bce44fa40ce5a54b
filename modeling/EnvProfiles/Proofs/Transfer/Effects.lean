import EnvProfiles.Proofs.Transfer.RoundTrip

/-!
# Effects of an Export

What an export does to the files, all of them, and to nothing else. Each entry
has a file of its own right in the directory, whatever dots its key is made of,
and no two share one: with the extension behind it a key that can name a file
still names one, and another key has another name. Every other file is as it
was, and whatever else is new is a directory on the way.

An export that stops at a key that names no file has not begun. Which key it
names is told by the contents of the store alone.

Links stand apart. Where a symbolic link is found under the name of a file, the
text is written to the place that the link leads to, which can be anywhere. And a
file that has other names besides is found with the new text under these as well;
if two entries have come upon names of one file, the later text is found at both.

## Main definitions

* `Command.Delivers`: What an export has done to the files.
* `Command.FirstUnfit`: The first key that names no file.
* `Command.linked`: A file system with a link where a file is to be.
* `Command.shared`: A file system with a file that has two names.

## Theorems

* `Command.writeAll_delivers`: The files are written, and no others.
* `Command.exportAll_invalidName_iff`: Which key an export stops at.
* `Command.exportAll_effect`: All of this about an export.
* `Command.exportAll_through_link`: A text is written through a link.
-/

namespace EnvProfiles

namespace Command

variable {fs fs' made : FileSystem} {dir : Location} {outdir key : String}
  {settings : ExportSettings} {entries : List (String × String)} {c : Contents}

/-- The files of an export in a directory. -/
def filePlaces (settings : ExportSettings) (dir : Location) (entries : List (String × String)) :
    List Location :=
  entries.map fun e => dir ++ [settings.fileName e.1]

/-- What an export has done to the files. Each entry has a place of its own right in a directory,
where its path leads. Its text is found there and under whatever other names the file has, unless a
later one has come into the same file. Every other file that was there is as it was, and whatever
else is new is a directory. -/
structure Delivers (settings : ExportSettings) (outdir : String) (dir : Location)
    (entries : List (String × String)) (fs fs' : FileSystem) : Prop where
  named : ∀ e ∈ entries, IsName (settings.fileName e.1) ∧
    fs'.locate (Path.join outdir (settings.fileName e.1)) = .ok (dir ++ [settings.fileName e.1])
  distinct : (filePlaces settings dir entries).Nodup
  written : ∀ e, IsLast fs settings dir entries e → ∀ place,
    fs.sameFile (dir ++ [settings.fileName e.1]) place → fs'.entry? place = some (.text e.2)
  kept : ∀ place entry, (∀ file ∈ filePlaces settings dir entries, ¬ fs.sameFile file place) →
    fs.entry? place = some entry → fs'.entry? place = some entry
  added : ∀ place entry, place ∉ filePlaces settings dir entries →
    fs.entry? place = none → fs'.entry? place = some entry → entry = .directory

/-- A key is the first one of a store that cannot name a file. -/
structure FirstUnfit (c : Contents) (key : String) : Prop where
  stored : ∃ text, c key = some text
  unfit : ¬ IsName key
  first : ∀ other text, c other = some text → other < key → IsName other

/-! ### What is written -/

/-- Once the directory has been made, the files are written, and no others. -/
theorem writeAll_delivers (hadds : fs.AddsDirectories made) (hmade : made.WellFormed)
    (henters : made.Enters outdir dir) (hext : '/' ∉ settings.extension.toList)
    (hkeys : ∀ e ∈ entries, IsName e.1) (hlists : c.Lists entries)
    (hlinks : ∀ e ∈ entries, ∀ target,
      fs.entry? (dir ++ [settings.fileName e.1]) ≠ some (.link target))
    (h : writeAll settings outdir entries made = (.ok (), fs')) :
    Delivers settings outdir dir entries fs fs' := by
  have hnames : ∀ e ∈ entries, IsName (settings.fileName e.1) :=
    fun e he => ExportSettings.isName_fileName (hkeys e he) hext
  have hwritten := writeAll_ok hmade henters
    (fun e he => hadds.grows.noLink (FileSystem.noLink_iff.mpr (hlinks e he))) hnames h
  -- The made directories have one name each, so which names share a file is as it was before.
  have hspared : ∀ place, (∀ file ∈ filePlaces settings dir entries, ¬ fs.sameFile file place) →
      fs'.entry? place = made.entry? place := by
    intro place hplace
    refine hwritten.kept place fun e he => ?_
    rw [hadds.sameFile]
    exact hplace _ (List.mem_map_of_mem he)
  refine ⟨fun e he => ⟨hnames e he, hwritten.locate e he⟩, ?_, fun e hlast place hsame => ?_,
    fun place entry hplace hentry => ?_, fun place entry hplace habsent hentry => ?_⟩
  · -- Files of one name would be those of one key, and the listing has each key once.
    refine List.pairwise_map.mpr (hlists.ascending.imp fun hlt heq => ?_)
    exact String.ne_of_lt hlt (ExportSettings.fileName_injective
      (List.head_eq_of_cons_eq (List.append_cancel_left heq)))
  · obtain ⟨before, after, rfl, hlater⟩ := hlast
    refine hwritten.shown e ⟨before, after, rfl, fun later hmem => ?_⟩ place
      (hadds.sameFile _ _ ▸ hsame)
    rw [hadds.sameFile]
    exact hlater later hmem
  · rw [hspared place hplace]
    exact hadds.kept hentry
  · -- Where nothing was there is no file with another name.
    rw [hspared place fun file hfile hc => hplace ?_] at hentry
    · exact hadds.added habsent hentry
    · rw [FileSystem.sameFile_comm, FileSystem.sameFile_of_absent habsent] at hc
      exact hc ▸ hfile

/-- After its directories have been made, a path enters one. -/
theorem enters_of_makeDirectories (hfs : fs.WellFormed)
    (h : fs.makeDirectories outdir = (.ok (), made)) : ∃ dir, made.Enters outdir dir := by
  by_cases hpath : outdir = ""
  · exact ⟨made.workplace, .inr ⟨hpath, rfl⟩⟩
  · -- Only the empty path leads to nothing, and that one leads to where the program runs.
    have hdirectory := hfs.isDirectory_of_makeDirectoriesWithin hpath h
    obtain ⟨dir, hlocate, hdir⟩ := FileSystem.isDirectory_iff.mp hdirectory
    exact ⟨dir, .inl ⟨hlocate, hdir⟩⟩

/-! ### What is not begun -/

/-- Whatever ends the writing, it is no name. -/
theorem writeAll_ne_invalidName (settings : ExportSettings) (outdir : String)
    (entries : List (String × String)) (fs : FileSystem) (key : String) :
    (writeAll settings outdir entries fs).1 ≠ .error (.files (.invalidName key)) := by
  fun_induction writeAll settings outdir entries fs with
  | case1 => simp only [ne_eq, reduceCtorEq, not_false_eq_true]
  | case2 key text r fs path written hwrite ih => exact ih
  | case3 =>
      simp only [ne_eq, refused, Except.error.injEq, Fault.files.injEq, reduceCtorEq,
        not_false_eq_true]

/-- An export that stops at a key has found it before anything was done. -/
theorem exportAll_invalidName_iff {σ : Type} [KeyStore σ] {store : σ}
    (hentries : KeyStore.entries store = .ok entries) :
    (exportAll store outdir settings fs).1 = .error (.files (.invalidName key)) ↔
      ∃ text, entries.find? (fun e => !namesFile e.1) = some (key, text) := by
  unfold exportAll
  simp only [hentries]
  -- The keys are looked over first. Nothing that can go wrong later is a fault of this kind.
  cases hfirst : entries.find? fun e => !namesFile e.1 with
  | some e =>
      simp only [Except.error.injEq, Fault.files.injEq, FileFault.invalidName.injEq,
        Option.some.injEq]
      exact ⟨fun h => ⟨e.2, by rw [← h]⟩, fun ⟨_, h⟩ => congrArg Prod.fst h⟩
  | none =>
      simp only [reduceCtorEq, exists_const, iff_false]
      split
      next => exact fun hc => nomatch hc
      next made _ =>
        have hwrite := writeAll_ne_invalidName settings outdir entries made key
        split
        next hfault =>
          rw [hfault] at hwrite
          exact fun hc => hwrite (congrArg Except.error (Except.error.inj hc))
        next => exact fun hc => nomatch hc

theorem FirstUnfit.unique {other : String} (h : FirstUnfit c key) (hother : FirstUnfit c other) :
    key = other := by
  obtain ⟨text, htext⟩ := h.stored
  obtain ⟨text', htext'⟩ := hother.stored
  by_cases hlt : key < other
  · exact absurd (hother.first key text htext hlt) h.unfit
  · by_contra hne
    exact hother.unfit (h.first other text' htext' (Dict.lt_of_not_lt hlt hne))

/-- The first pair of a listing with a key that names no file has the first such key. -/
theorem firstUnfit_of_find? {text : String} (hlists : c.Lists entries)
    (h : entries.find? (fun e => !namesFile e.1) = some (key, text)) : FirstUnfit c key := by
  -- A listing ascends, so that the keys below this one are those that stand before it.
  obtain ⟨hunfit, before, after, rfl, hbefore⟩ := List.find?_eq_some_iff_append.mp h
  have hafter := (List.pairwise_append.mp hlists.ascending).2.1
  refine ⟨⟨text, (hlists.mem_iff key text).mp (List.mem_append_right _ List.mem_cons_self)⟩,
    fun hname => ?_, fun other text' hother hlt => ?_⟩
  · rw [namesFile_iff.mpr hname] at hunfit
    exact nomatch hunfit
  · rcases List.mem_append.mp ((hlists.mem_iff other text').mpr hother) with hmem | hmem
    · have hfit := hbefore _ hmem
      rw [Bool.not_not] at hfit
      exact namesFile_iff.mp hfit
    · -- From the key on there is nothing below it.
      rcases List.mem_cons.mp hmem with heq | hmem
      · rw [(Prod.mk.inj heq).1] at hlt
        exact absurd hlt (String.lt_irrefl key)
      · exact absurd hlt (String.lt_asymm ((List.pairwise_cons.mp hafter).1 _ hmem))

/-- If there is a key that names no file, there is a first one, and a listing leads to it. -/
theorem exists_find?_of_unfit {text : String} (hlists : c.Lists entries) (hkey : c key = some text)
    (hunfit : ¬ IsName key) :
    ∃ first text, entries.find? (fun e => !namesFile e.1) = some (first, text) := by
  have hsome : (entries.find? fun e => !namesFile e.1).isSome := by
    refine List.find?_isSome.mpr ⟨(key, text), (hlists.mem_iff key text).mpr hkey, ?_⟩
    rw [Bool.not_eq_true', Bool.eq_false_iff]
    exact fun hc => hunfit (namesFile_iff.mp hc)
  obtain ⟨⟨first, text⟩, hfirst⟩ := Option.isSome_iff_exists.mp hsome
  exact ⟨first, text, hfirst⟩

/-! ### The whole of it -/

/-- What an export does to the files. If it succeeds, it has counted the entries of the store, and
unless one of its files is a link, it has written each entry to a file right in the directory, and
changed nothing else but to make directories. It stops at a key exactly if this is the first one of
the store that is empty, is dots or holds a slash, so exactly if there is one, and then nothing has
changed. -/
theorem exportAll_effect {σ : Type} [KeyStore σ] {store : σ} (outdir : String)
    (hstore : Reads store c) (hfs : fs.WellFormed) (hext : '/' ∉ settings.extension.toList) :
    let result := exportAll store outdir settings fs
    (∀ count, result.1 = .ok count → ∃ entries dir, c.Lists entries ∧ count = entries.length ∧
      result.2.Enters outdir dir ∧
      ((∀ e ∈ entries, ∀ target,
          fs.entry? (dir ++ [settings.fileName e.1]) ≠ some (.link target)) →
        Delivers settings outdir dir entries fs result.2)) ∧
    (∀ key, result.1 = .error (.files (.invalidName key)) ↔ FirstUnfit c key) ∧
    ((∃ key, result.1 = .error (.files (.invalidName key))) ↔
      ∃ key text, c key = some text ∧ ¬ IsName key) ∧
    ∀ key, result.1 = .error (.files (.invalidName key)) → result.2 = fs := by
  intro result
  obtain ⟨listed, hlisted, hlists⟩ := hstore.entries_eq
  -- A listing is searched from its start, so the pair that is found has the least such key.
  have hstops : ∀ key, result.1 = .error (.files (.invalidName key)) ↔ FirstUnfit c key := by
    intro key
    rw [exportAll_invalidName_iff hlisted]
    constructor
    · rintro ⟨text, hfind⟩
      exact firstUnfit_of_find? hlists hfind
    · intro hkey
      obtain ⟨text, htext⟩ := hkey.stored
      obtain ⟨first, text, hfind⟩ := exists_find?_of_unfit hlists htext hkey.unfit
      rw [hkey.unique (firstUnfit_of_find? hlists hfind)]
      exact ⟨text, hfind⟩
  refine ⟨fun count hcount => ?_, hstops, ⟨?_, ?_⟩, fun key hkey => ?_⟩
  · obtain ⟨entries, made, hentries, hkeys, hmake, hwrite, hlength⟩ := exportAll_cases hcount
    cases hlisted.symm.trans hentries
    obtain ⟨hmade, hadds⟩ := hfs.makeDirectoriesWithin_ok hmake
    obtain ⟨dir, henters⟩ := enters_of_makeDirectories hfs hmake
    have hgrows := (writeAll_spares settings outdir listed made).1
    rw [hwrite] at hgrows
    exact ⟨listed, dir, hlists, hlength, henters.grows hgrows, fun hlinks =>
      writeAll_delivers hadds hmade henters hext hkeys hlists hlinks hwrite⟩
  · rintro ⟨key, hkey⟩
    obtain ⟨text, htext⟩ := ((hstops key).mp hkey).stored
    exact ⟨key, text, htext, ((hstops key).mp hkey).unfit⟩
  · rintro ⟨key, text, htext, hunfit⟩
    obtain ⟨first, text, hfind⟩ := exists_find?_of_unfit hlists htext hunfit
    exact ⟨first, (hstops first).mpr (firstUnfit_of_find? hlists hfind)⟩
  · obtain ⟨text, hfind⟩ := (exportAll_invalidName_iff hlisted).mp hkey
    change (exportAll store outdir settings fs).2 = fs
    unfold exportAll
    simp only [hlisted, hfind]

/-- Keys that are nearly nothing but dots. -/
def dots : MemoryStore := ⟨Dict.ofList [("...", "one"), ("..a", "two")]⟩

/-- A file with two names. One of them is that of an entry. -/
def shared : FileSystem :=
  { FileSystem.fresh with
    nodes := ([["work", "notes"], ["work", "....yml"]], .text "hello") :: FileSystem.fresh.nodes }

/-- Keys of dots are written right where the program runs. One comes upon a file that has another
name, under which it is found as well. -/
theorem exportAll_effect_dots :
    Reads dots dots.dict.get? ∧ shared.WellFormed ∧
    '/' ∉ ExportSettings.standard.extension.toList ∧
    (exportAll dots "" .standard shared).1 = .ok 2 ∧
    Delivers .standard "" ["work"] [("...", "one"), ("..a", "two")] shared
      (exportAll dots "" .standard shared).2 ∧
    FileSystem.entry? (exportAll dots "" .standard shared).2 ["work", "..a.yml"] =
      some (.text "two") ∧
    FileSystem.entry? (exportAll dots "" .standard shared).2 ["work", "notes"] =
      some (.text "one") := by
  have hstore : Reads dots dots.dict.get? := ContentStore.reads rfl
  have hfs : shared.WellFormed := by decide
  have hext : '/' ∉ ExportSettings.standard.extension.toList := by decide
  have hcount : (exportAll dots "" .standard shared).1 = .ok 2 := by rfl
  obtain ⟨entries, dir, hlists, _, henters, hdelivers⟩ :=
    (exportAll_effect "" hstore hfs hext).1 2 hcount
  obtain ⟨listed, hlisted, hlists'⟩ := hstore.entries_eq
  have hentries : entries = [("...", "one"), ("..a", "two")] :=
    (hlists.unique hlists').trans (Except.ok.inj hlisted).symm
  have hdir : dir = ["work"] := by
    rcases henters with ⟨hlocate, _⟩ | ⟨_, hdir⟩
    · exact nomatch hlocate
    · exact hdir
  subst hentries hdir
  have hall := hdelivers fun e he target => by
    rcases List.mem_cons.mp he with rfl | he
    · exact fun hc => nomatch hc
    · rw [List.mem_singleton.mp he]
      exact fun hc => nomatch hc
  exact ⟨hstore, hfs, hext, hcount, hall,
    hall.written ("..a", "two") ⟨[("...", "one")], [], rfl, by decide⟩ _ (by decide),
    hall.written ("...", "one") ⟨[], [("..a", "two")], rfl, by decide⟩ _ (by decide)⟩

/-- A directory in which a link stands where the file of a key is to be, and leads to a file
elsewhere. -/
def linked : FileSystem :=
  ((FileSystem.fresh.put ["work", "notes"] (.text "hello")).put ["work", "out"] .directory).put
    ["work", "out", "base.yml"] (.link "../notes")

/-- A text is written to the file that a link leads to, which is in another directory. So not every
other file is as it was. -/
theorem exportAll_through_link :
    Reads single single.dict.get? ∧ linked.WellFormed ∧ linked.Enters "out" ["work", "out"] ∧
    (exportAll single "out" .standard linked).1 = .ok 1 ∧
    FileSystem.entry? (exportAll single "out" .standard linked).2 ["work", "notes"] =
      some (.text "env:\n  A: b\n") ∧
    ¬ ∀ place entry,
      (∀ file ∈ filePlaces .standard ["work", "out"] [("base", "env:\n  A: b\n")],
        ¬ linked.sameFile file place) →
      linked.entry? place = some entry →
      FileSystem.entry? (exportAll single "out" .standard linked).2 place = some entry := by
  have hafter : FileSystem.entry? (exportAll single "out" .standard linked).2 ["work", "notes"] =
      some (.text "env:\n  A: b\n") := by rfl
  refine ⟨ContentStore.reads rfl, by decide, .inl ⟨by rfl, by rfl⟩, by rfl, hafter, fun hkept => ?_⟩
  have hbefore := hkept ["work", "notes"] (.text "hello") (by decide) (by rfl)
  rw [hafter] at hbefore
  exact absurd hbefore (by decide)

end Command

end EnvProfiles
