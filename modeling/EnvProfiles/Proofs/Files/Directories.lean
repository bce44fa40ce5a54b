import EnvProfiles.Proofs.Files.WellFormed

/-!
# Making Directories

What is there after the directories of a path have been made: the path leads to
a directory, and nothing is new but directories. If no name of the path leads
upwards and the path led to nothing, the directory is new as well, and empty.

That takes an argument, since a path is made from its end. The last directory is
tried first, and only where one above is missing are those made, so that some
directories can have been made when the next one turns out to be there already.
With a name that leads upwards this happens: of `missing/..` only `missing` is
made, and the path leads to the directory that `missing` is in.

## Main definitions

* `FileSystem.AddsDirectories`: Nothing is new but directories.
* `FileSystem.HoldsNoFiles`: What is found in a directory are directories.
* `FileSystem.Enters`: What is below a path is in a directory.
* `FileSystem.Vacant`: Once made, the directory of a path holds no files.

## Theorems

* `FileSystem.WellFormed.locate_iff_follow_names`: A slash at the end of a path
  to a directory makes no difference.
* `FileSystem.WellFormed.locate_join`, `FileSystem.Enters.locate_join`: A path
  below a directory leads into it.
* `FileSystem.WellFormed.makeDirectoriesWithin`: What is new afterwards.
* `FileSystem.WellFormed.isDirectory_of_makeDirectoriesWithin`: Where the path
  leads.
* `FileSystem.WellFormed.makeDirectories_of_isDirectory`: A path of which
  nothing is left to be made.
* `FileSystem.WellFormed.makeDirectoriesWithin_same_or_new`: A path no name of
  which leads upwards.
* `FileSystem.Vacant.holdsNoFiles`: The directory of such a path, once made.
-/

namespace EnvProfiles

namespace FileSystem

variable {fs fs' fs'' : FileSystem} {place dir : Location} {path above name : String} {n : Nat}

/-- What is found in a directory are directories. -/
def HoldsNoFiles (fs : FileSystem) (dir : Location) : Prop :=
  ∀ name entry, fs.entry? (dir ++ [name]) = some entry → entry = .directory

/-- Nothing is new in a file system but directories. -/
structure AddsDirectories (fs fs' : FileSystem) : Prop where
  workplace : fs'.workplace = fs.workplace
  kept : ∀ {place entry}, fs.entry? place = some entry → fs'.entry? place = some entry
  added : ∀ {place entry}, fs.entry? place = none → fs'.entry? place = some entry →
    entry = .directory
  /-- The same places are names of one file. -/
  sameFile : ∀ a b, fs'.sameFile a b = fs.sameFile a b

namespace AddsDirectories

theorem refl (fs : FileSystem) : AddsDirectories fs fs :=
  ⟨rfl, id, fun habsent hentry => (nomatch habsent.symm.trans hentry), fun _ _ => rfl⟩

theorem absent (h : AddsDirectories fs fs') (habsent : fs'.entry? place = none) :
    fs.entry? place = none := by
  cases hentry : fs.entry? place with
  | none => rfl
  | some entry => exact nomatch habsent.symm.trans (h.kept hentry)

/-- Where no directory is new, there is what was there before. -/
theorem entry?_eq (h : AddsDirectories fs fs')
    (hplace : fs'.entry? place = some .directory → fs.entry? place = some .directory) :
    fs'.entry? place = fs.entry? place := by
  cases hbefore : fs.entry? place with
  | some entry => exact h.kept hbefore
  | none =>
      cases hafter : fs'.entry? place with
      | none => rfl
      | some entry =>
          rw [h.added hbefore hafter] at hafter
          exact nomatch hbefore.symm.trans (hplace hafter)

theorem trans (h : AddsDirectories fs fs') (h' : AddsDirectories fs' fs'') :
    AddsDirectories fs fs'' where
  workplace := h'.workplace.trans h.workplace
  kept hentry := h'.kept (h.kept hentry)
  added {place entry} habsent hentry := by
    -- What is new at the end came in one of the two steps.
    cases hmiddle : fs'.entry? place with
    | none => exact h'.added hmiddle hentry
    | some middle =>
        rw [h'.kept hmiddle] at hentry
        exact h.added habsent (hmiddle.trans hentry)
  sameFile a b := (h'.sameFile a b).trans (h.sameFile a b)

theorem grows (h : AddsDirectories fs fs') : fs.Grows fs' := by
  refine ⟨h.workplace, rfl, fun {place} hpresent => ?_, fun {place} habsent => ?_⟩
  · rw [ne_eq, found_absent_iff, ← ne_eq, Option.ne_none_iff_exists'] at hpresent
    obtain ⟨entry, hentry⟩ := hpresent
    rw [found_eq, found_eq, hentry, h.kept hentry]
  · rw [noLink_iff]
    intro target hlink
    exact nomatch h.added (found_absent_iff.mp habsent) hlink

theorem holdsNoFiles (h : AddsDirectories fs fs') (hdir : fs.HoldsNoFiles dir) :
    fs'.HoldsNoFiles dir := by
  intro name entry hentry
  cases hbefore : fs.entry? (dir ++ [name]) with
  | none => exact h.added hbefore hentry
  | some before =>
      rw [h.kept hbefore] at hentry
      exact hdir name entry (hbefore.trans hentry)

/-- A directory is put where nothing was. -/
theorem put (habsent : fs.entry? place = none) :
    AddsDirectories fs (fs.put place .directory) := by
  refine ⟨rfl, fun {other entry} hentry => ?_, fun {other entry} hother hentry => ?_,
    sameFile_put (ne_nil_of_absent habsent) .directory⟩
  · have hne : other ≠ place := by
      rintro rfl
      exact nomatch habsent.symm.trans hentry
    rw [entry?_put_absent habsent, if_neg hne]
    exact hentry
  · rw [entry?_put_absent habsent] at hentry
    split at hentry
    next => exact (Option.some.inj hentry).symm
    next => exact nomatch hother.symm.trans hentry

theorem makeDirectory (h : fs.makeDirectory path = .ok fs') : AddsDirectories fs fs' := by
  obtain ⟨place, _, habsent, rfl⟩ := makeDirectory_cases h
  exact put habsent

end AddsDirectories

/-! ### Paths to directories -/

/-- A slash at the end of a path to a directory makes no difference. -/
theorem WellFormed.locate_iff_follow_names (hfs : fs.WellFormed)
    (hplace : fs.entry? place = some .directory) :
    fs.locate path = .ok place ↔ fs.follow true path (Terrain.names path) = .ok place := by
  rw [locate, Terrain.demandedNames]
  split
  next =>
    have hplain : ∀ via next,
        fs.terrain.follow true (Terrain.linkLimit + 1) (Terrain.origin fs.workplace path)
          (Terrain.names path) = .ok via →
        fs.terrain.step via "." = .ok next → fs.terrain.NoLink next := by
      intro via next _ hstep
      obtain ⟨hvia, rfl⟩ := Terrain.step_dot_iff.mp hstep
      exact Terrain.noLink_of_directory hvia
    rw [follow, follow, Terrain.along_eq_ok_iff, Terrain.along_eq_ok_iff,
      Terrain.follow_concat_iff hfs.sound (hfs.origin path) hplain]
    refine and_congr_right fun _ => ⟨?_, fun h => ⟨place, h, ?_⟩⟩
    · -- The name that is added stands for the directory itself.
      rintro ⟨via, hvia, hstep⟩
      obtain ⟨_, rfl⟩ := Terrain.step_dot_iff.mp hstep
      exact hvia
    · exact Terrain.step_dot_iff.mpr ⟨found_directory_iff.mpr hplace, rfl⟩
  next => rw [List.append_nil]

theorem isDirectory_iff :
    fs.isDirectory path = true ↔ ∃ place, fs.locate path = .ok place ∧
      fs.entry? place = some .directory := by
  unfold isDirectory find
  cases fs.locate path with
  | error refusal => exact ⟨fun h => (nomatch h), fun ⟨_, h, _⟩ => nomatch h⟩
  | ok place =>
      constructor
      · intro h
        refine ⟨place, rfl, ?_⟩
        rcases hplace : fs.entry? place with _ | (_ | _ | _ | _ | _) <;> simp_all
      · rintro ⟨_, hlocate, hplace⟩
        cases hlocate
        simp only [hplace]

theorem contains_of_isDirectory (h : fs.isDirectory path = true) : fs.contains path = true := by
  obtain ⟨place, hlocate, hplace⟩ := isDirectory_iff.mp h
  rw [contains, find, hlocate]
  simp only [hplace]

/-- A path below a directory leads into it, if it leads anywhere. -/
theorem WellFormed.locate_join (hfs : fs.WellFormed) (hlocate : fs.locate path = .ok dir)
    (hdir : fs.entry? dir = some .directory) (hname : IsName name)
    (hlink : fs.terrain.NoLink (dir ++ [name]))
    (h : fs.locate (Path.join path name) = .ok place) : place = dir ++ [name] := by
  obtain ⟨hadmits, hnames⟩ :=
    Terrain.along_eq_ok_iff.mp ((hfs.locate_iff_follow_names hdir).mp hlocate)
  have hplain : ∀ via next,
      fs.terrain.follow true (Terrain.linkLimit + 1) (Terrain.origin fs.workplace path)
        (Terrain.names path) = .ok via →
      fs.terrain.step via name = .ok next → next = dir ++ [name] := by
    intro via next hvia hstep
    rw [hnames] at hvia
    cases hvia
    exact Terrain.step_eq_append hstep hname.ne_dot hname.ne_dots
  -- The names of the longer path are those of the directory and the last one.
  have hjoin := (Terrain.along_eq_ok_iff.mp h).2
  rw [Terrain.demandedNames_join hadmits.ne_empty hname, Terrain.origin,
    Path.isAbsolute_join hadmits.ne_empty hname, ← Terrain.origin,
    Terrain.follow_concat_iff hfs.sound (hfs.origin path) fun via next hvia hstep =>
      hplain via next hvia hstep ▸ hlink] at hjoin
  obtain ⟨via, hvia, hstep⟩ := hjoin
  exact hplain via place hvia hstep

/-- What is below a path is in a directory: the path leads there, or it is empty and the program
runs there. -/
def Enters (fs : FileSystem) (path : String) (dir : Location) : Prop :=
  fs.locate path = .ok dir ∧ fs.entry? dir = some .directory ∨ path = "" ∧ dir = fs.workplace

theorem Enters.directory (h : fs.Enters path dir) (hfs : fs.WellFormed) :
    fs.entry? dir = some .directory := by
  rcases h with ⟨_, hdir⟩ | ⟨_, rfl⟩
  · exact hdir
  · exact hfs.workplace

theorem Enters.grows (h : fs.Enters path dir) (hgrows : fs.Grows fs') : fs'.Enters path dir := by
  rcases h with ⟨hlocate, hdir⟩ | ⟨hpath, rfl⟩
  · exact .inl ⟨hgrows.locate hlocate, hgrows.directory hdir⟩
  · exact .inr ⟨hpath, hgrows.workplace.symm⟩

/-- A path below a directory leads into it, if it leads anywhere, and a name leads into the
directory in which the program runs. -/
theorem Enters.locate_join (h : fs.Enters path dir) (hfs : fs.WellFormed) (hname : IsName name)
    (hlink : fs.terrain.NoLink (dir ++ [name]))
    (hjoin : fs.locate (Path.join path name) = .ok place) : place = dir ++ [name] := by
  rcases h with ⟨hlocate, hdir⟩ | ⟨rfl, rfl⟩
  · exact hfs.locate_join hlocate hdir hname hlink hjoin
  · -- Without names before it, the last one is taken from where the program runs.
    have hfollow := (Terrain.along_eq_ok_iff.mp hjoin).2
    have hstart : Terrain.origin fs.workplace name = fs.workplace := by
      rw [Terrain.origin, hname.not_isAbsolute, if_neg Bool.false_ne_true]
    have hfound := found_directory_iff.mpr hfs.workplace
    have hhere : ∀ via, fs.terrain.follow true (Terrain.linkLimit + 1) fs.workplace [] = .ok via →
        via = fs.workplace := by
      intro via hvia
      rw [Terrain.follow_of_noLink rfl (Terrain.noLink_of_directory hfound)] at hvia
      exact (Except.ok.inj hvia).symm
    have hplain : ∀ via next,
        fs.terrain.follow true (Terrain.linkLimit + 1) fs.workplace [] = .ok via →
        fs.terrain.step via name = .ok next → next = fs.workplace ++ [name] := by
      intro via next hvia hstep
      rw [hhere via hvia] at hstep
      exact Terrain.step_eq_append hstep hname.ne_dot hname.ne_dots
    rw [Path.join_empty, hname.demandedNames_eq, hstart, ← List.nil_append [name],
      Terrain.follow_concat_iff hfs.sound hfound fun via next hvia hstep =>
        hplain via next hvia hstep ▸ hlink] at hfollow
    obtain ⟨via, hvia, hstep⟩ := hfollow
    exact hplain via place hvia hstep

/-- What is listed by a path is what is in the directory that it leads to. -/
theorem list_eq (hlocate : fs.locate path = .ok dir) (hdir : fs.entry? dir = some .directory) :
    fs.list path = .ok (fs.children dir) := by
  rw [list, hlocate]
  simp only [hdir]

/-- What is read by a path is the text of the file that it leads to. -/
theorem read_eq {text : String} (hlocate : fs.locate path = .ok place)
    (hplace : fs.entry? place = some (.text text)) : fs.read path = .ok text := by
  rw [read, find, hlocate]
  simp only [hplace]

theorem list_cases {entries : List (String × Entry)} (h : fs.list path = .ok entries) :
    ∃ dir, fs.locate path = .ok dir ∧ fs.entry? dir = some .directory ∧
      entries = fs.children dir := by
  unfold list at h
  split at h
  next => exact nomatch h
  next dir hlocate =>
    split at h
    next => exact nomatch h
    next hdir => exact ⟨dir, hlocate, hdir, (Except.ok.inj h).symm⟩
    next => exact nomatch h

/-! ### One directory -/

/-- A directory that is made is a new one, and its path leads to it. -/
theorem WellFormed.makeDirectory_new (hfs : fs.WellFormed) (h : fs.makeDirectory path = .ok fs') :
    fs.AddsDirectories fs' ∧ ∃ place, fs.entry? place = none ∧ fs'.locate path = .ok place ∧
      fs'.entry? place = some .directory := by
  have hfs' := hfs.makeDirectory h
  obtain ⟨place, hfollow, habsent, rfl⟩ := makeDirectory_cases h
  have hadds : fs.AddsDirectories (fs.put place .directory) := .put habsent
  have hnew : entry? (fs.put place .directory) place = some .directory := by
    simp [ne_nil_of_absent habsent]
  refine ⟨hadds, place, habsent, ?_, hnew⟩
  -- The name at the end was not followed, which makes no difference where no link is.
  obtain ⟨hadmits, hnames⟩ := Terrain.along_eq_ok_iff.mp hfollow
  have hlink : fs.terrain.NoLink place :=
    noLink_iff.mpr fun _ hc => nomatch habsent.symm.trans hc
  have hbefore : fs.follow true path (Terrain.names path) = .ok place :=
    Terrain.along_eq_ok_iff.mpr ⟨hadmits, Terrain.follow_true_of_noLink hnames hlink⟩
  exact (hfs'.locate_iff_follow_names hnew).mpr (hadds.grows.follow hbefore)

theorem ensureDirectory_cases (h : fs.ensureDirectory path = .ok fs') :
    fs.makeDirectory path = .ok fs' ∨ fs.isDirectory path = true ∧ fs' = fs := by
  unfold ensureDirectory at h
  split at h
  next made hmake => exact .inl (hmake.trans h)
  next =>
    split at h
    next hdir => exact .inr ⟨hdir, (Except.ok.inj h).symm⟩
    next => exact nomatch h

/-! ### All directories -/

/-- How directories have been made: none is wanted, the last one is made or is there already, or
those above it are made first. -/
theorem makeDirectoriesWithin_cases (h : makeDirectoriesWithin (n + 1) fs path = (.ok (), fs')) :
    path = "" ∧ fs' = fs ∨ fs.makeDirectory path = .ok fs' ∨ fs.isDirectory path = true ∧ fs' = fs ∨
      ∃ above made, Path.parent? path = some above ∧
        fs.makeDirectory path = .error .absent ∧
        makeDirectoriesWithin n fs above = (.ok (), made) ∧
        (made.makeDirectory path = .ok fs' ∨ made.isDirectory path = true ∧ fs' = made) := by
  unfold makeDirectoriesWithin at h
  split at h
  next hpath => exact .inl ⟨beq_iff_eq.mp hpath, (Prod.mk.inj h).2.symm⟩
  next =>
    refine .inr ?_
    split at h
    next made hmake =>
      rw [← (Prod.mk.inj h).2]
      exact .inl hmake
    next refusal hmake =>
      refine .inr ?_
      split at h
      next =>
        split at h
        next hdir => exact .inl ⟨hdir, (Prod.mk.inj h).2.symm⟩
        next => exact nomatch (Prod.mk.inj h).1
      next habsent =>
        refine .inr ?_
        -- Only what is missing above is made. Then the path itself is tried once more.
        have hrefusal : refusal = .absent := by simpa using habsent
        split at h
        next => exact nomatch (Prod.mk.inj h).1
        next above habove =>
          split at h
          next => exact nomatch (Prod.mk.inj h).1
          next made hmade =>
            split at h
            next hensure =>
              rw [(Prod.mk.inj h).2] at hensure
              exact ⟨above, made, habove, hrefusal ▸ hmake, hmade, ensureDirectory_cases hensure⟩
            next => exact nomatch (Prod.mk.inj h).1

/-- Nothing is new but directories, even if some could not be made. -/
theorem makeDirectoriesWithin_adds (n : Nat) (fs : FileSystem) (path : String) :
    fs.AddsDirectories (makeDirectoriesWithin n fs path).2 := by
  fun_induction FileSystem.makeDirectoriesWithin n fs path with
  | case1 | case2 | case4 | case5 | case6 => exact .refl _
  | case3 _ _ _ _ _ hmake => exact .makeDirectory hmake
  | case7 _ _ _ _ _ _ _ _ _ _ _ hmade ih =>
      rw [hmade] at ih
      exact ih
  | case8 _ _ _ _ _ _ _ _ _ _ hmade _ hensure ih =>
      rw [hmade] at ih
      rcases ensureDirectory_cases hensure with hmake | ⟨_, rfl⟩
      · exact ih.trans (.makeDirectory hmake)
      · exact ih
  | case9 _ _ _ _ _ _ _ _ _ _ hmade _ _ ih =>
      rw [hmade] at ih
      exact ih

theorem WellFormed.makeDirectoriesWithin (hfs : fs.WellFormed) (n : Nat) (path : String) :
    (makeDirectoriesWithin n fs path).2.WellFormed ∧
      fs.AddsDirectories (makeDirectoriesWithin n fs path).2 := by
  refine ⟨?_, makeDirectoriesWithin_adds n fs path⟩
  fun_induction FileSystem.makeDirectoriesWithin n fs path with
  -- In these cases nothing has been made, in the others the directory above has.
  | case1 | case2 | case4 | case5 | case6 => exact hfs
  | case3 _ _ _ _ _ hmake => exact hfs.makeDirectory hmake
  | case7 _ _ _ _ _ _ _ _ _ _ _ hmade ih =>
      rw [hmade] at ih
      exact ih hfs
  | case8 _ _ _ _ _ _ _ _ _ _ hmade _ hensure ih =>
      rw [hmade] at ih
      rcases ensureDirectory_cases hensure with hmake | ⟨_, rfl⟩
      · exact (ih hfs).makeDirectory hmake
      · exact ih hfs
  | case9 _ _ _ _ _ _ _ _ _ _ hmade _ _ ih =>
      rw [hmade] at ih
      exact ih hfs

theorem WellFormed.makeDirectoriesWithin_ok (hfs : fs.WellFormed)
    (h : FileSystem.makeDirectoriesWithin n fs path = (.ok (), fs')) :
    fs'.WellFormed ∧ fs.AddsDirectories fs' := by
  have hall := hfs.makeDirectoriesWithin n path
  rwa [h] at hall

/-- If all have been made, the path leads to a directory. -/
theorem WellFormed.isDirectory_of_makeDirectoriesWithin (hfs : fs.WellFormed) (hpath : path ≠ "")
    (h : FileSystem.makeDirectoriesWithin n fs path = (.ok (), fs')) :
    fs'.isDirectory path = true := by
  have hlast : ∀ {before : FileSystem}, before.WellFormed →
      before.makeDirectory path = .ok fs' → fs'.isDirectory path = true := by
    intro before hbefore hmake
    obtain ⟨_, place, _, hplace⟩ := hbefore.makeDirectory_new hmake
    exact isDirectory_iff.mpr ⟨place, hplace⟩
  cases n with
  | zero => exact nomatch (Prod.mk.inj h).1
  | succ n =>
      -- Either the last directory was made last of all, or it was there already.
      rcases makeDirectoriesWithin_cases h with ⟨hempty, _⟩ | hmake | ⟨hdir, rfl⟩ |
        ⟨above, made, _, _, hmade, hmake | ⟨hdir, rfl⟩⟩
      · exact absurd hempty hpath
      · exact hlast hfs hmake
      · exact hdir
      · exact hlast (hfs.makeDirectoriesWithin_ok hmade).1 hmake
      · exact hdir

/-- Nothing is made of a path that leads to a directory. -/
theorem WellFormed.makeDirectories_of_isDirectory (hfs : fs.WellFormed)
    (h : path = "" ∨ fs.isDirectory path = true) : fs.makeDirectories path = (.ok (), fs) := by
  rw [makeDirectories, FileSystem.makeDirectoriesWithin]
  by_cases hpath : path = ""
  · rw [if_pos (beq_iff_eq.mpr hpath)]
  · rw [if_neg fun hc => hpath (beq_iff_eq.mp hc)]
    have hdirectory := h.resolve_left hpath
    obtain ⟨dir, hlocate, hdir⟩ := isDirectory_iff.mp hdirectory
    obtain ⟨hadmits, hnames⟩ :=
      Terrain.along_eq_ok_iff.mp ((hfs.locate_iff_follow_names hdir).mp hlocate)
    -- A directory is not made in place of a link either, though the link leads to one.
    obtain ⟨via, hvia, hend⟩ := Terrain.follow_false_of_follow hnames
    have hfollow : fs.follow false path (Terrain.names path) = .ok via :=
      Terrain.along_eq_ok_iff.mpr ⟨hadmits, hvia⟩
    obtain ⟨entry, hentry⟩ : ∃ entry, fs.entry? via = some entry := by
      refine Option.ne_none_iff_exists'.mp fun habsent => ?_
      rcases hend with rfl | ⟨target, hlink⟩
      · exact nomatch hdir.symm.trans habsent
      · exact nomatch (found_absent_iff.mpr habsent).symm.trans hlink
    have hpresent : fs.makeDirectory path = .error .present := by
      rw [FileSystem.makeDirectory, hfollow]
      simp only [hentry]
    rw [hpresent]
    exact if_pos hdirectory

theorem WellFormed.provide (hfs : fs.WellFormed) (path text : String) :
    (fs.provide path text).WellFormed := by
  unfold FileSystem.provide
  split
  next => exact (hfs.makeDirectoriesWithin _ path).1
  next =>
    dsimp only
    have hmade := (hfs.makeDirectoriesWithin
      (((Path.parent? path).getD "").length + 1) ((Path.parent? path).getD "")).1
    split
    next hwrite => exact hmade.write hwrite
    next => exact hmade

/-- Nothing is below a place where nothing is. -/
theorem WellFormed.absent_below (hfs : fs.WellFormed) (h : fs.entry? place = none)
    (below : Location) : fs.entry? (place ++ below) = none := by
  -- What is found lower down would be in a directory at this place.
  induction below using List.reverseRecOn with
  | nil => rw [List.append_nil, h]
  | append_singleton below name ih =>
      rw [← List.append_assoc]
      cases hentry : fs.entry? (place ++ below ++ [name]) with
      | none => rfl
      | some entry =>
          have habove := hfs.entry?_above hentry
          rw [List.dropLast_concat] at habove
          exact nomatch ih.symm.trans habove

/-- A path that goes on from a directory that has been made leads to a new place. -/
theorem AddsDirectories.absent_of_prefix (h : AddsDirectories fs fs') (hfs : fs.WellFormed)
    (hfs' : fs'.WellFormed) (habsent : fs.entry? place = none)
    (habove : fs'.follow true above (Terrain.names above) = .ok place)
    (horigin : Path.isAbsolute above = Path.isAbsolute path)
    (hfirst : Terrain.names above <+: Terrain.names path) (hdots : ".." ∉ Terrain.names path)
    (hdir : fs'.follow true path (Terrain.names path) = .ok dir) : fs.entry? dir = none := by
  obtain ⟨more, hmore⟩ := hfirst
  -- Below the new directory there are none but new directories, so no link leads out of it.
  have hbelow : ∀ below, fs'.terrain.NoLink (place ++ below) := by
    refine fun below => noLink_iff.mpr fun target hlink => ?_
    exact nomatch h.added (hfs.absent_below habsent below) hlink
  have hplace := (Terrain.along_eq_ok_iff.mp habove).2
  rw [Terrain.origin, horigin] at hplace
  have hreached := (Terrain.along_eq_ok_iff.mp hdir).2
  rw [← hmore] at hdots hreached
  obtain ⟨below, rfl⟩ := Terrain.follow_below hfs'.sound (hfs'.origin path) hplace hbelow
    (fun hc => hdots (List.mem_append_right _ hc)) hreached
  exact hfs.absent_below habsent below

/-- If no name of a path leads upwards, nothing is made or the directory that the path leads to is
a new one. -/
theorem WellFormed.makeDirectoriesWithin_same_or_new (hfs : fs.WellFormed)
    (hdots : ".." ∉ Terrain.names path)
    (h : FileSystem.makeDirectoriesWithin n fs path = (.ok (), fs')) :
    fs' = fs ∨ ∃ place, fs.entry? place = none ∧ fs'.locate path = .ok place ∧
      fs'.entry? place = some .directory := by
  -- By the directories above, the outermost of which decides whether something is new.
  induction n generalizing path fs' with
  | zero => exact nomatch (Prod.mk.inj h).1
  | succ n ih =>
      rcases makeDirectoriesWithin_cases h with ⟨_, rfl⟩ | hmake | ⟨_, rfl⟩ |
        ⟨above, made, habove, hmissing, hmade, hensure⟩
      · exact .inl rfl
      · exact .inr (hfs.makeDirectory_new hmake).2
      · exact .inl rfl
      · obtain ⟨hfirst, horigin⟩ := Terrain.names_parent? habove
        obtain ⟨hwell, hadds⟩ := hfs.makeDirectoriesWithin_ok hmade
        have habove : ".." ∉ Terrain.names above := fun hc => hdots (hfirst.subset hc)
        rcases ih habove hmade with rfl | ⟨place, habsent, hplace, hnew⟩
        · -- The last directory cannot be made, just as at the first attempt.
          rcases hensure with hmake | ⟨_, rfl⟩
          · exact nomatch hmissing.symm.trans hmake
          · exact .inl rfl
        · refine .inr ?_
          rcases hensure with hmake | ⟨hdir, rfl⟩
          · obtain ⟨_, place', habsent', hplace'⟩ := hwell.makeDirectory_new hmake
            exact ⟨place', hadds.absent habsent', hplace'⟩
          · -- It is below the new one, and so it is new as well.
            obtain ⟨dir, hlocate, hdir⟩ := isDirectory_iff.mp hdir
            refine ⟨dir, ?_, hlocate, hdir⟩
            exact hadds.absent_of_prefix hfs hwell habsent
              ((hwell.locate_iff_follow_names hnew).mp hplace) horigin hfirst hdots
              ((hwell.locate_iff_follow_names hdir).mp hlocate)

/-! ### Directories without files -/

/-- Once made, the directory of a path holds no files: it is there and empty; or it is missing and
no name of its path leads upwards; or it is missing and, though a name leads upwards, the path
does not come to a directory with files. -/
inductive Vacant (fs : FileSystem) (path : String) : Prop
  | empty : fs.list path = .ok [] → Vacant fs path
  | missing : fs.contains path = false → ".." ∉ Terrain.names path → Vacant fs path
  | upwards : fs.contains path = false →
    (∀ dir, (fs.makeDirectories path).2.locate path = .ok dir → fs.HoldsNoFiles dir) →
    Vacant fs path

/-- The directory of a path, once it has been made. -/
theorem Vacant.holdsNoFiles (h : Vacant fs path) (hfs : fs.WellFormed) (hpath : path ≠ "")
    (hmake : fs.makeDirectories path = (.ok (), fs')) :
    ∃ dir, fs'.locate path = .ok dir ∧ fs'.entry? dir = some .directory ∧
      fs'.HoldsNoFiles dir := by
  obtain ⟨_, hadds⟩ := hfs.makeDirectoriesWithin_ok hmake
  have hdirectory := hfs.isDirectory_of_makeDirectoriesWithin hpath hmake
  obtain ⟨dir, hlocate, hdir⟩ := isDirectory_iff.mp hdirectory
  cases h with
  | empty hlist =>
      -- What can be listed was there before, and nothing was in it.
      obtain ⟨place, hplace, hentry, hchildren⟩ := list_cases hlist
      refine ⟨place, hadds.grows.locate hplace, hadds.kept hentry, hadds.holdsNoFiles ?_⟩
      intro name entry hname
      have hmem := hfs.mem_children.mpr hname
      rw [← hchildren] at hmem
      exact absurd hmem List.not_mem_nil
  | missing habsent hdots =>
      rcases hfs.makeDirectoriesWithin_same_or_new hdots hmake with
        rfl | ⟨place, hnew, hplace, hentry⟩
      · -- Nothing was made though the path led nowhere, and yet it leads to a directory.
        have hcontains := contains_of_isDirectory hdirectory
        exact nomatch habsent.symm.trans hcontains
      · refine ⟨place, hplace, hentry, hadds.holdsNoFiles ?_⟩
        intro name entry hname
        exact nomatch (hfs.absent_below hnew [name]).symm.trans hname
  | upwards _ hnofiles =>
      rw [hmake] at hnofiles
      exact ⟨dir, hlocate, hdir, hadds.holdsNoFiles (hnofiles dir hlocate)⟩

end FileSystem

end EnvProfiles
