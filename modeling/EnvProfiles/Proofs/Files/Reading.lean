import EnvProfiles.Proofs.Files.Directories

/-!
# Reading the Files of a Directory

What is read by the path of a file in a directory, which is the path of the
directory with the name of the file behind it. It is the text of that very file,
since the names that a system lets into a directory lead nowhere else: such a
name is no dots, holds neither a slash nor a null, and is not too long. All that
can go wrong is that the whole path is too long, or that the file holds octets
that are no text.

So what is read depends on nothing but the path and the file. Whatever else is
in the directory, beside it or below it, plays no role.

## Main definitions

* `IsFileName`: A name that the system lets into a directory.
* `FileSystem.ProperNames`: All names in a directory are such names.
* `FileSystem.textIn`: The text of a file in a directory.
* `FileSystem.ListsFiles`: The names of the files in a directory, in order.
* `FileSystem.SameFiles`: Two directories hold the same files.
* `Entry.readAlong`: What is read of a file along a path that leads to it.

## Theorems

* `FileSystem.WellFormed.locate_join_eq`: The path of a file leads to it.
* `FileSystem.WellFormed.read_join`: What is read along the path.
* `FileSystem.WellFormed.textIn_of_read`: It is the text of the file.
-/

namespace EnvProfiles

/-- A name that the system lets into a directory. -/
structure IsFileName (name : String) : Prop extends IsName name where
  no_null : '\x00' ∉ name.toList
  size_le : name.utf8ByteSize ≤ Terrain.nameLimit

instance (name : String) : Decidable (IsFileName name) :=
  decidable_of_iff
    (name ≠ "" ∧ name ≠ "." ∧ name ≠ ".." ∧ '/' ∉ name.toList ∧ '\x00' ∉ name.toList ∧
      name.utf8ByteSize ≤ Terrain.nameLimit)
    ⟨fun ⟨hempty, hdot, hdots, hslash, hnull, hsize⟩ =>
      ⟨⟨hempty, hdot, hdots, hslash⟩, hnull, hsize⟩,
      fun h => ⟨h.ne_empty, h.ne_dot, h.ne_dots, h.no_slash, h.no_null, h.size_le⟩⟩

/-- A path below another one holds no null if neither of its parts does. -/
theorem Path.no_null_join {path name : String} (hpath : path ≠ "") (hname : IsName name)
    (hnull : '\x00' ∉ path.toList) (hnull' : '\x00' ∉ name.toList) :
    '\x00' ∉ (join path name).toList := by
  rw [join_eq hpath hname, String.toList_append, List.mem_append, not_or]
  refine ⟨?_, hnull'⟩
  split
  · exact hnull
  · rw [String.toList_append, List.mem_append, not_or]
    exact ⟨hnull, by decide⟩

theorem Path.join_ne_empty {path name : String} (hpath : path ≠ "") (hname : IsName name) :
    join path name ≠ "" := by
  rw [join_eq hpath hname]
  exact fun hc => hname.ne_empty (String.append_eq_empty_iff.mp hc).2

/-- A path that is too long is refused for that, unless something else is wrong with it. -/
theorem Terrain.along_too_long {t : Terrain} {last : Bool} {base : Location} {path : String}
    {names : List String} (hempty : path ≠ "") (hnull : '\x00' ∉ path.toList)
    (hsize : pathLimit < t.size path) : t.along last base path names = .error .nameTooLong := by
  rw [along, if_neg fun hc => hempty (beq_iff_eq.mp hc),
    if_neg fun hc => hnull (List.contains_iff_mem.mp hc), if_pos hsize]

/-- A name that is not too long leads into the directory. -/
theorem Terrain.step_eq_ok {t : Terrain} {place : Location} {name : String}
    (hplace : t.found place = .directory) (hname : IsName name) (hsize : t.size name ≤ nameLimit) :
    t.step place name = .ok (place ++ [name]) := by
  rw [step, hplace]
  dsimp only
  rw [if_neg fun hc => hname.ne_dot (beq_iff_eq.mp hc),
    if_neg fun hc => hname.ne_dots (beq_iff_eq.mp hc), if_neg (Nat.not_lt.mpr hsize)]

/-- The text of a file, if it holds one. -/
def Entry.text? : Entry → Option String
  | .text content => some content
  | _ => none

/-- What is read of a file along a path that leads to it. -/
def Entry.readAlong (entry : Entry) (path : String) : Except Refusal String :=
  if Terrain.pathLimit < path.utf8ByteSize then .error .nameTooLong
  else
    match entry.text? with
    | some content => .ok content
    | none => .error .notText

theorem Entry.text?_of_readAlong {entry : Entry} {path text : String}
    (h : entry.readAlong path = .ok text) : entry.text? = some text := by
  unfold readAlong at h
  split at h
  next => cases h
  next =>
    split at h
    next found hfound => rw [hfound, Except.ok.inj h]
    next => cases h

namespace FileSystem

/-- All names in a directory are such as the system lets in. -/
def ProperNames (fs : FileSystem) (dir : Location) : Prop :=
  ∀ name entry, fs.entry? (dir ++ [name]) = some entry → IsFileName name

/-- The text of a file in a directory, if there is one that holds a text. -/
def textIn (fs : FileSystem) (dir : Location) (name : String) : Option String :=
  (fs.entry? (dir ++ [name])).bind Entry.text?

variable {fs : FileSystem} {dir : Location} {path name text : String} {entry : Entry}

/-- The names of the files in a directory, in ascending order. -/
structure ListsFiles (fs : FileSystem) (dir : Location) (files : List String) : Prop where
  ascending : files.Pairwise (· < ·)
  mem_iff : ∀ name, name ∈ files ↔ ∃ entry, fs.entry? (dir ++ [name]) = some entry ∧ IsFile entry

/-- Two directories, perhaps of different file systems, hold the same files under the same names. -/
def SameFiles (fs : FileSystem) (dir : Location) (fs' : FileSystem) (dir' : Location) : Prop :=
  ∀ name entry, IsFile entry →
    (fs.entry? (dir ++ [name]) = some entry ↔ fs'.entry? (dir' ++ [name]) = some entry)

/-- Directories that hold the same files have one listing. -/
theorem ListsFiles.eq_of_sameFiles {fs' : FileSystem} {dir' : Location} {files files' : List String}
    (h : fs.ListsFiles dir files) (h' : fs'.ListsFiles dir' files')
    (hsame : fs.SameFiles dir fs' dir') : files' = files := by
  refine eq_of_ascending id h'.ascending h.ascending fun name => ?_
  rw [h.mem_iff, h'.mem_iff]
  exact exists_congr fun entry =>
    ⟨fun ⟨hentry, hfile⟩ => ⟨(hsame name entry hfile).mpr hentry, hfile⟩,
      fun ⟨hentry, hfile⟩ => ⟨(hsame name entry hfile).mp hentry, hfile⟩⟩

/-- What has a text is a file. -/
theorem exists_file_of_textIn (h : fs.textIn dir name = some text) :
    ∃ entry, fs.entry? (dir ++ [name]) = some entry ∧ IsFile entry := by
  obtain ⟨entry, hentry, htext⟩ := Option.bind_eq_some_iff.mp h
  cases entry with
  | text content => exact ⟨_, hentry, fun hc => (nomatch hc), fun _ hc => nomatch hc⟩
  | directory | octets _ | database _ | link _ => exact nomatch htext

/-- The path of something in a directory leads there, if the system takes the path. -/
theorem WellFormed.locate_join_eq (hfs : fs.WellFormed) (hlocate : fs.locate path = .ok dir)
    (hdir : fs.entry? dir = some .directory) (hname : IsFileName name)
    (hlink : fs.terrain.NoLink (dir ++ [name]))
    (hsize : (Path.join path name).utf8ByteSize ≤ Terrain.pathLimit) :
    fs.locate (Path.join path name) = .ok (dir ++ [name]) := by
  -- The way to the directory is that of its names, and the last step goes from there.
  obtain ⟨⟨hpath, hnull, _⟩, hnames⟩ :=
    Terrain.along_eq_ok_iff.mp ((hfs.locate_iff_follow_names hdir).mp hlocate)
  have hfound := found_directory_iff.mpr hdir
  have hstep : fs.terrain.step dir name = .ok (dir ++ [name]) :=
    Terrain.step_eq_ok hfound hname.toIsName hname.size_le
  refine Terrain.along_eq_ok_iff.mpr ⟨⟨Path.join_ne_empty hpath hname.toIsName,
    Path.no_null_join hpath hname.toIsName hnull hname.no_null, hsize⟩, ?_⟩
  rw [Terrain.demandedNames_join hpath hname.toIsName, Terrain.origin,
    Path.isAbsolute_join hpath hname.toIsName, ← Terrain.origin,
    Terrain.follow_concat_iff hfs.sound (hfs.origin path)]
  · exact ⟨dir, hnames, hstep⟩
  · -- There is no other way to go than to the directory, and from there into it.
    intro via next hvia hnext
    obtain rfl : via = dir := Except.ok.inj (hvia.symm.trans hnames)
    rw [Except.ok.inj (hnext.symm.trans hstep)]
    exact hlink

/-- What is read along the path of a file in a directory. -/
theorem WellFormed.read_join (hfs : fs.WellFormed) (hlocate : fs.locate path = .ok dir)
    (hdir : fs.entry? dir = some .directory) (hname : IsFileName name)
    (hentry : fs.entry? (dir ++ [name]) = some entry) (hfile : IsFile entry) :
    fs.read (Path.join path name) = entry.readAlong (Path.join path name) := by
  -- A directory can be reached by a path so long that there is no room for the name.
  by_cases hsize : (Path.join path name).utf8ByteSize ≤ Terrain.pathLimit
  · have hlink : fs.terrain.NoLink (dir ++ [name]) := (DeadEnd.of_file hentry hfile).noLink
    have hplace := hfs.locate_join_eq hlocate hdir hname hlink hsize
    rw [Entry.readAlong, if_neg (Nat.not_lt.mpr hsize), read, find, hplace]
    simp only [hentry]
    cases entry with
    | directory => exact absurd rfl hfile.ne_directory
    | link target => exact absurd rfl (hfile.ne_link target)
    | text _ | octets _ | database _ => rfl
  · obtain ⟨⟨hpath, hnull, _⟩, _⟩ := Terrain.along_eq_ok_iff.mp hlocate
    have hlong : fs.locate (Path.join path name) = .error .nameTooLong :=
      Terrain.along_too_long (Path.join_ne_empty hpath hname.toIsName)
        (Path.no_null_join hpath hname.toIsName hnull hname.no_null) (Nat.not_le.mp hsize)
    rw [Entry.readAlong, if_pos (Nat.not_le.mp hsize), read, find, hlong]

/-- What is read along the path of a file in a directory is the text of the file. -/
theorem WellFormed.textIn_of_read (hfs : fs.WellFormed) (hlocate : fs.locate path = .ok dir)
    (hdir : fs.entry? dir = some .directory) (hname : IsFileName name)
    (hentry : fs.entry? (dir ++ [name]) = some entry) (hfile : IsFile entry)
    (h : fs.read (Path.join path name) = .ok text) : fs.textIn dir name = some text := by
  rw [hfs.read_join hlocate hdir hname hentry hfile] at h
  rw [textIn, hentry, Option.bind_some]
  exact Entry.text?_of_readAlong h

end FileSystem

end EnvProfiles
