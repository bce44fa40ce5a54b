import EnvProfiles.Proofs.Files.Paths
import EnvProfiles.Proofs.Files.Places
import EnvProfiles.Proofs.Files.Ways
import EnvProfiles.Proofs.Listing

/-!
# Well-Formed File Systems

A file system is a tree: at a place there is one thing, and it is in a
directory. Directories are made and files written only where a path leads, and a
path leads to a place in a directory, so the file system stays a tree.

What is written over is a file, and what is made is made where nothing was. So
the file system only grows in the sense of `Terrain.Grows`, and every path leads
where it led before. It does so even if files are removed, since no way leads
through a file.

## Main definitions

* `FileSystem.WellFormed`: A file system is a tree.
* `FileSystem.Keeps`: Directories and links stay what they are.
* `FileSystem.DeadEnd`: A place through which no way leads.
* `FileSystem.Refiles`: Nothing has happened but to files.
* `FileSystem.Grows`: Every path leads where it led before.

## Theorems

* `FileSystem.makeDirectory_cases`, `FileSystem.write_cases`: What it means that
  a directory is made, and that a file is written.
* `FileSystem.WellFormed.makeDirectory`, `FileSystem.WellFormed.write`,
  `FileSystem.WellFormed.append`, `FileSystem.WellFormed.remove`: The tree stays
  one.
* `FileSystem.DeadEnd.keeps_put`, `FileSystem.DeadEnd.keeps_drop`,
  `FileSystem.grows_of_write`: Every path leads where it led before.
* `FileSystem.WellFormed.mem_children`, `FileSystem.WellFormed.children_ascending`:
  What is listed of a directory.
-/

namespace EnvProfiles

namespace FileSystem

/-- At a place there is one thing, it is in a directory, and the program runs in a directory. -/
structure WellFormed (fs : FileSystem) : Prop where
  distinct : (fs.found.map Prod.fst).Nodup
  above : ∀ e ∈ fs.found, fs.entry? e.1.dropLast = some .directory
  workplace : fs.entry? fs.workplace = some .directory

instance (fs : FileSystem) : Decidable fs.WellFormed :=
  decidable_of_iff
    ((fs.found.map Prod.fst).Nodup ∧ (∀ e ∈ fs.found, fs.entry? e.1.dropLast = some .directory) ∧
      fs.entry? fs.workplace = some .directory)
    ⟨fun h => ⟨h.1, h.2.1, h.2.2⟩, fun h => ⟨h.distinct, h.above, h.workplace⟩⟩

theorem fresh_wellFormed : fresh.WellFormed := by decide

variable {fs fs' : FileSystem} {place dir : Location} {entry : Entry}
  {path text name : String} {names : List String} {last : Bool}

/-! ### What is found -/

theorem mem_found : (place, entry) ∈ fs.found ↔ ∃ places, (places, entry) ∈ fs.nodes ∧
    place ∈ places := by
  rw [found, List.mem_flatMap]
  constructor
  · rintro ⟨⟨places, found⟩, hmem, hplace⟩
    obtain ⟨other, hother, heq⟩ := List.mem_map.mp hplace
    obtain ⟨rfl, rfl⟩ := Prod.mk.inj heq
    exact ⟨places, hmem, hother⟩
  · rintro ⟨places, hmem, hplace⟩
    exact ⟨_, hmem, List.mem_map.mpr ⟨place, hplace, rfl⟩⟩

/-- What is found at a place is what is listed first for it. -/
theorem lookup_found (h : place ≠ []) : fs.found.lookup place = fs.entry? place := by
  rw [entry?_of_ne_nil h, node?_of_ne_nil h, found]
  induction fs.nodes with
  | nil => rfl
  | cons node nodes ih =>
      -- Under the names of one node there is nothing but what the node holds.
      have hnode : (node.1.map fun place => (place, node.2)).lookup place =
          if node.1.contains place then some node.2 else none := by
        induction node.1 with
        | nil => rfl
        | cons other places ih =>
            rw [List.map_cons, List.lookup_cons, ih, List.contains_cons]
            cases place == other <;> rfl
      rw [List.flatMap_cons, List.lookup_append, ih, List.find?_cons]
      refine (congrArg (Option.or · _) hnode).trans ?_
      cases node.1.contains place <;> rfl

theorem WellFormed.entry?_iff (hfs : fs.WellFormed) (h : place ≠ []) :
    fs.entry? place = some entry ↔ (place, entry) ∈ fs.found := by
  rw [← lookup_found h]
  exact lookup_eq_some_iff_mem hfs.distinct

theorem WellFormed.entry?_above (hfs : fs.WellFormed) (h : fs.entry? place = some entry) :
    fs.entry? place.dropLast = some .directory := by
  by_cases hplace : place = []
  · rw [hplace]
    rfl
  · exact hfs.above _ ((hfs.entry?_iff hplace).mp h)

/-- What is listed once something has been put at a place: a file under its names, and the rest. -/
theorem found_put (fs : FileSystem) (place : Location) (entry : Entry) :
    (fs.put place entry).found =
      ((fs.places place).filter (fs.sameFile place)).map (fun other => (other, entry)) ++
        found { fs with nodes := fs.nodes.eraseP fun node => node.1.contains place } := rfl

theorem map_fst_found (fs : FileSystem) : fs.found.map Prod.fst = fs.nodes.flatMap (·.1) := by
  rw [found, List.map_flatMap]
  congr 1
  funext node
  exact List.map_map.trans (List.map_id node.1)

/-- The names of a file, and after them all other places, are as distinct as they were. -/
theorem nodup_put (hplace : place ≠ []) (hdistinct : (fs.found.map Prod.fst).Nodup)
    (entry : Entry) : ((fs.put place entry).found.map Prod.fst).Nodup := by
  rw [map_fst_found] at hdistinct
  rw [found_put, List.map_append, List.map_map, map_fst_found]
  -- The names are those of the node that is taken out, which come in front now.
  have hnames : (fs.places place ++
      (fs.nodes.eraseP fun node => node.1.contains place).flatMap (·.1)).Nodup := by
    cases hnode : fs.node? place with
    | none =>
        rw [places_of_absent hnode]
        rw [node?_of_ne_nil hplace, List.find?_eq_none] at hnode
        rw [List.eraseP_of_forall_not hnode]
        refine List.nodup_cons.mpr ⟨fun hc => ?_, hdistinct⟩
        obtain ⟨node, hmem, hc⟩ := List.mem_flatMap.mp hc
        exact hnode node hmem (List.contains_iff_mem.mpr hc)
    | some node =>
        rw [places_eq_of_node? hnode]
        rw [node?_of_ne_nil hplace, List.find?_eq_some_iff_append] at hnode
        obtain ⟨hcontains, before, after, hnodes, hbefore⟩ := hnode
        rw [hnodes, List.flatMap_append, List.flatMap_cons] at hdistinct
        have herase : (node :: after).eraseP (fun node => node.1.contains place) = after :=
          List.eraseP_cons_of_pos hcontains
        rw [hnodes, List.eraseP_append_right _ fun other hother =>
            by simpa only [Bool.not_eq_true', Bool.not_eq_true] using hbefore other hother,
          herase, List.flatMap_append]
        exact (List.perm_append_comm_assoc _ _ _).nodup_iff.mp hdistinct
  -- Of these only names that lead to the file are kept.
  refine hnames.sublist (List.Sublist.append_right ?_ _)
  exact (List.map_id _).symm ▸ List.filter_sublist

/-- What is put into a directory leaves a tree, unless it takes the place of a directory. -/
theorem WellFormed.put (hfs : fs.WellFormed) (habove : fs.entry? place.dropLast = some .directory)
    (hplace : place ≠ []) (hentry : fs.entry? place = some .directory → entry = .directory) :
    (fs.put place entry).WellFormed := by
  have hkeeps : ∀ {other}, fs.entry? other = some .directory →
      entry? (fs.put place entry) other = some .directory := by
    intro other hother
    rw [entry?_put hplace]
    split
    next hsame => rw [hentry ((entry?_eq_of_sameFile hsame).trans hother)]
    next => exact hother
  refine ⟨nodup_put hplace hfs.distinct entry, ?_, hkeeps hfs.workplace⟩
  rintro ⟨other, found⟩ he
  refine hkeeps ?_
  rw [found_put, List.mem_append, List.mem_map] at he
  rcases he with ⟨name, hname, heq⟩ | he
  · obtain ⟨rfl, -⟩ := Prod.mk.inj heq
    -- Another name of the file is in a directory as before, and a new file has none.
    have hsame := mem_filter_places.mp hname
    cases hfound : fs.entry? place with
    | none => rwa [(sameFile_of_absent hfound).mp hsame]
    | some old => exact hfs.entry?_above ((entry?_eq_of_sameFile hsame).symm.trans hfound)
  · obtain ⟨places, hmem, hother⟩ := mem_found.mp he
    exact hfs.above _ (mem_found.mpr ⟨places, List.mem_of_mem_eraseP hmem, hother⟩)

/-! ### The terrain -/

/-- What matters about something on the way to another place. -/
def waypoint : Option Entry → Waypoint
  | none => .absent
  | some .directory => .directory
  | some (.link target) => .link target
  | some _ => .other

theorem found_eq (fs : FileSystem) (place : Location) :
    fs.terrain.found place = waypoint (fs.entry? place) := rfl

theorem found_absent_iff : fs.terrain.found place = .absent ↔ fs.entry? place = none := by
  rw [found_eq]
  rcases fs.entry? place with _ | (_ | _ | _ | _ | _) <;> simp [waypoint]

theorem found_directory_iff :
    fs.terrain.found place = .directory ↔ fs.entry? place = some .directory := by
  rw [found_eq]
  rcases fs.entry? place with _ | (_ | _ | _ | _ | _) <;> simp [waypoint]

theorem noLink_iff :
    fs.terrain.NoLink place ↔ ∀ target, fs.entry? place ≠ some (.link target) := by
  rw [Terrain.NoLink, found_eq]
  rcases fs.entry? place with _ | (_ | _ | _ | _ | _) <;> simp [waypoint]

theorem WellFormed.sound (hfs : fs.WellFormed) : fs.terrain.Sound where
  root := rfl
  above {place} hpresent := by
    rw [ne_eq, found_absent_iff, ← ne_eq, Option.ne_none_iff_exists'] at hpresent
    obtain ⟨entry, hentry⟩ := hpresent
    exact found_directory_iff.mpr (hfs.entry?_above hentry)

theorem WellFormed.origin (hfs : fs.WellFormed) (path : String) :
    fs.terrain.found (Terrain.origin fs.workplace path) = .directory := by
  unfold Terrain.origin
  split
  · rfl
  · exact found_directory_iff.mpr hfs.workplace

/-- A path leads to a place in a directory. -/
theorem WellFormed.follow_above (hfs : fs.WellFormed)
    (h : fs.follow last path names = .ok place) :
    fs.entry? place.dropLast = some .directory := by
  have horigin := hfs.origin path
  refine found_directory_iff.mp (Terrain.follow_above hfs.sound (hfs.sound.above fun hc => ?_)
    (Terrain.along_eq_ok_iff.mp h).2)
  exact nomatch horigin.symm.trans hc

/-! ### Files that come and go -/

/-- Directories and links stay what they are. -/
structure Keeps (fs fs' : FileSystem) : Prop where
  workplace : fs'.workplace = fs.workplace
  terrain : fs.terrain.Keeps fs'.terrain

namespace Keeps

theorem refl (fs : FileSystem) : Keeps fs fs := ⟨rfl, .refl _⟩

theorem trans {fs'' : FileSystem} (h : Keeps fs fs') (h' : Keeps fs' fs'') : Keeps fs fs'' :=
  ⟨h'.workplace.trans h.workplace, h.terrain.trans h'.terrain⟩

theorem follow (h : Keeps fs fs') (hfollow : fs.follow last path names = .ok place) :
    fs'.follow last path names = .ok place := by
  rw [FileSystem.follow, h.workplace]
  exact h.terrain.along hfollow

theorem locate (h : Keeps fs fs') (hlocate : fs.locate path = .ok place) :
    fs'.locate path = .ok place :=
  h.follow hlocate

theorem directory (h : Keeps fs fs') (hplace : fs.entry? place = some .directory) :
    fs'.entry? place = some .directory :=
  found_directory_iff.mp (h.terrain.directory (found_directory_iff.mpr hplace))

end Keeps

/-- Something through which no way leads: it is neither a directory nor a link. -/
structure IsFile (entry : Entry) : Prop where
  ne_directory : entry ≠ .directory
  ne_link : ∀ target, entry ≠ .link target

/-- No way leads on from a place: if something is found there, it is a file. -/
def DeadEnd (fs : FileSystem) (place : Location) : Prop :=
  ∀ entry, fs.entry? place = some entry → IsFile entry

namespace DeadEnd

theorem of_absent (h : fs.entry? place = none) : fs.DeadEnd place :=
  fun _ hentry => nomatch h.symm.trans hentry

theorem of_file (h : fs.entry? place = some entry) (hfile : IsFile entry) : fs.DeadEnd place :=
  fun _ hentry => Option.some.inj (h.symm.trans hentry) ▸ hfile

theorem not_directory (h : fs.DeadEnd place) : fs.entry? place ≠ some .directory :=
  fun hc => (h _ hc).ne_directory rfl

theorem noLink (h : fs.DeadEnd place) : fs.terrain.NoLink place :=
  noLink_iff.mpr fun target hc => (h _ hc).ne_link target rfl

theorem ne_nil (h : fs.DeadEnd place) : place ≠ [] := fun hc => h.not_directory (hc ▸ rfl)

theorem put {other : Location} (h : fs.DeadEnd place) (hother : other ≠ []) (hfile : IsFile entry) :
    (fs.put other entry).DeadEnd place := by
  intro found hfound
  rw [entry?_put hother] at hfound
  split at hfound
  · exact Option.some.inj hfound ▸ hfile
  · exact h found hfound

theorem drop {other : Location} (h : fs.DeadEnd place) (hother : other ≠ []) :
    (fs.drop other).DeadEnd place := by
  intro found hfound
  rw [entry?_drop hother] at hfound
  split at hfound
  · exact nomatch hfound
  · exact h found hfound

theorem of_sameFile {other : Location} (h : fs.DeadEnd place)
    (hsame : fs.sameFile place other = true) : fs.DeadEnd other :=
  fun found hfound => h found ((entry?_eq_of_sameFile hsame).trans hfound)

/-- What becomes of dead ends is without consequence, as long as they become no links. -/
theorem keeps (hworkplace : fs'.workplace = fs.workplace)
    (h : ∀ other, fs'.entry? other = fs.entry? other ∨
      fs.DeadEnd other ∧ fs'.terrain.NoLink other) : fs.Keeps fs' := by
  refine ⟨hworkplace, rfl, fun {other} hdir => ?_, fun {other target} hother => ?_,
    fun {other} hother => ?_⟩
  · rcases h other with hsame | ⟨hend, -⟩
    · rwa [found_eq, hsame]
    · -- A dead end is no directory, and below it is no link either.
      exact absurd (found_directory_iff.mp hdir) hend.not_directory
  · rcases h other with hsame | ⟨hend, -⟩
    · rwa [found_eq, hsame]
    · exact absurd hother (hend.noLink target)
  · rcases h other with hsame | ⟨-, hlink⟩
    · intro target hc
      rw [found_eq, hsame] at hc
      exact hother target hc
    · exact hlink

theorem keeps_put (h : fs.DeadEnd place) (hfile : IsFile entry) :
    fs.Keeps (fs.put place entry) := by
  refine keeps rfl fun other => ?_
  rw [noLink_iff, entry?_put h.ne_nil]
  split
  next hsame => exact .inr ⟨h.of_sameFile hsame,
    fun target hc => hfile.ne_link target (Option.some.inj hc)⟩
  next => exact .inl rfl

theorem keeps_drop (h : fs.DeadEnd place) : fs.Keeps (fs.drop place) := by
  refine keeps rfl fun other => ?_
  rw [noLink_iff, entry?_drop h.ne_nil]
  split
  next heq => exact .inr ⟨heq ▸ h, fun target hc => nomatch hc⟩
  next => exact .inl rfl

end DeadEnd

/-- There is more in the file system, and every path leads where it led before. -/
structure Grows (fs fs' : FileSystem) : Prop where
  workplace : fs'.workplace = fs.workplace
  terrain : fs.terrain.Grows fs'.terrain

namespace Grows

theorem refl (fs : FileSystem) : Grows fs fs := ⟨rfl, .refl _⟩

theorem trans {fs'' : FileSystem} (h : Grows fs fs') (h' : Grows fs' fs'') : Grows fs fs'' :=
  ⟨h'.workplace.trans h.workplace, h.terrain.trans h'.terrain⟩

theorem keeps (h : Grows fs fs') : Keeps fs fs' := ⟨h.workplace, h.terrain.keeps⟩

theorem follow (h : Grows fs fs') (hfollow : fs.follow last path names = .ok place) :
    fs'.follow last path names = .ok place :=
  h.keeps.follow hfollow

theorem locate (h : Grows fs fs') (hlocate : fs.locate path = .ok place) :
    fs'.locate path = .ok place :=
  h.keeps.locate hlocate

theorem directory (h : Grows fs fs') (hplace : fs.entry? place = some .directory) :
    fs'.entry? place = some .directory :=
  h.keeps.directory hplace

theorem noLink (h : Grows fs fs') (hplace : fs.terrain.NoLink place) : fs'.terrain.NoLink place :=
  h.keeps.terrain.noLink hplace

end Grows

/-- What is put where nothing was, or in place of something that is alike on a way. -/
theorem grows_put (hplace : place ≠ []) (hlink : ∀ target, entry ≠ .link target)
    (h : fs.entry? place = none ∨ waypoint (fs.entry? place) = waypoint (some entry)) :
    fs.Grows (fs.put place entry) := by
  -- Only the names of the file are touched, and there it is as it was on a way.
  have hfound : ∀ other, (fs.put place entry).terrain.found other =
      if fs.sameFile place other then waypoint (some entry) else fs.terrain.found other := by
    intro other
    rw [found_eq, entry?_put hplace, found_eq]
    split <;> rfl
  refine ⟨rfl, rfl, fun {other} hpresent => ?_, fun {other} habsent => ?_⟩
  · rw [hfound]
    split
    next hsame =>
      rw [ne_eq, found_absent_iff, ← entry?_eq_of_sameFile hsame] at hpresent
      rw [found_eq, ← entry?_eq_of_sameFile hsame]
      exact ((or_iff_right hpresent).mp h).symm
    next => rfl
  · rw [noLink_iff, entry?_put hplace]
    split
    next => exact fun target hc => hlink target (Option.some.inj hc)
    next =>
      intro target hc
      rw [found_absent_iff.mp habsent] at hc
      exact nomatch hc

/-! ### Making and writing -/

/-- What it means that a directory is made. -/
theorem makeDirectory_cases (h : fs.makeDirectory path = .ok fs') :
    ∃ place, fs.follow false path (Terrain.names path) = .ok place ∧ fs.entry? place = none ∧
      fs' = fs.put place .directory := by
  unfold makeDirectory at h
  split at h
  next => exact nomatch h
  next place hfollow =>
    split at h
    next => exact nomatch h
    next habsent => exact ⟨place, hfollow, habsent, (Except.ok.inj h).symm⟩

/-- What it means that a file is written. -/
theorem write_cases (h : fs.write path text = .ok fs') :
    ∃ place, fs.locate path = .ok place ∧ fs.entry? place ≠ some .directory ∧
      fs' = fs.put place (.text text) := by
  unfold write at h
  split at h
  next => exact nomatch h
  next place hlocate =>
    split at h
    next => exact nomatch h
    next hentry => exact ⟨place, hlocate, hentry, (Except.ok.inj h).symm⟩

theorem ne_nil_of_not_directory (h : fs.entry? place ≠ some .directory) : place ≠ [] :=
  fun hc => h (hc ▸ rfl)

theorem ne_nil_of_absent (h : fs.entry? place = none) : place ≠ [] :=
  ne_nil_of_not_directory fun hc => nomatch h.symm.trans hc

theorem WellFormed.makeDirectory (hfs : fs.WellFormed) (h : fs.makeDirectory path = .ok fs') :
    fs'.WellFormed := by
  obtain ⟨place, hfollow, habsent, rfl⟩ := makeDirectory_cases h
  exact hfs.put (hfs.follow_above hfollow) (ne_nil_of_absent habsent) fun _ => rfl

theorem WellFormed.write (hfs : fs.WellFormed) (h : fs.write path text = .ok fs') :
    fs'.WellFormed := by
  obtain ⟨place, hlocate, hentry, rfl⟩ := write_cases h
  exact hfs.put (hfs.follow_above hlocate) (ne_nil_of_not_directory hentry)
    fun hc => absurd hc hentry

theorem WellFormed.append (hfs : fs.WellFormed) (h : fs.append path text = .ok fs') :
    fs'.WellFormed := by
  unfold FileSystem.append at h
  split at h
  next => exact nomatch h
  next place hlocate =>
    -- Whatever is added to, something is put in place of what is no directory.
    have hput : ∀ {entry}, fs.entry? place ≠ some .directory → (fs.put place entry).WellFormed :=
      fun hentry => hfs.put (hfs.follow_above hlocate) (ne_nil_of_not_directory hentry)
        fun hc => absurd hc hentry
    split at h
    next => exact nomatch h
    next before hbefore =>
      cases h
      exact hput fun hc => nomatch hbefore.symm.trans hc
    next before hbefore =>
      cases h
      exact hput fun hc => nomatch hbefore.symm.trans hc
    next =>
      cases h
      exact hfs
    next hentry _ _ _ =>
      cases h
      exact hput hentry

theorem found_drop (fs : FileSystem) (place : Location) :
    (fs.drop place).found = fs.found.filter fun e => e.1 != place := by
  rw [found, found, drop]
  induction fs.nodes with
  | nil => rfl
  | cons node nodes ih =>
      have hnode : (node.1.map fun other => (other, node.2)).filter (fun e => e.1 != place) =
          (node.1.filter (· != place)).map fun other => (other, node.2) := List.filter_map
      rw [List.map_cons, List.flatMap_cons, List.filter_append, ← ih]
      refine Eq.trans ?_ (congrArg (· ++ _) hnode).symm
      -- A file that is left without a name is listed under none.
      cases hleft : node.1.filter (· != place) with
      | nil => rw [List.filter_cons_of_neg (by simp [hleft]), List.map_nil, List.nil_append]
      | cons other names =>
          rw [List.filter_cons_of_pos (by simp [hleft]), List.flatMap_cons, ← hleft]

/-- Without something that is no directory, everything else is in its directory still. -/
theorem WellFormed.drop (hfs : fs.WellFormed) (hplace : fs.entry? place ≠ some .directory) :
    (fs.drop place).WellFormed := by
  have hkeeps : ∀ {other}, fs.entry? other = some .directory →
      entry? (fs.drop place) other = some .directory := by
    intro other hother
    -- No directory is the one that is gone.
    have hne : other ≠ place := fun hc => hplace (hc ▸ hother)
    rw [entry?_drop (ne_nil_of_not_directory hplace), if_neg hne]
    exact hother
  have hfound := found_drop fs place
  refine ⟨?_, fun e he => ?_, hkeeps hfs.workplace⟩
  · rw [hfound]
    exact hfs.distinct.sublist (List.filter_sublist.map _)
  · rw [hfound] at he
    exact hkeeps (hfs.above e (List.mem_filter.mp he).1)

theorem WellFormed.remove (hfs : fs.WellFormed) (h : fs.remove path = .ok fs') :
    fs'.WellFormed := by
  unfold FileSystem.remove at h
  split at h
  next => exact nomatch h
  next place _ =>
    split at h
    next => exact nomatch h
    next => exact nomatch h
    next entry hfile hentry =>
      cases h
      exact hfs.drop fun hc => hfile (Option.some.inj (hentry.symm.trans hc))

/-- Files have come, gone or been written over, and nothing else has happened. Only at given places
can one have gone. -/
structure Refiles (gone : List Location) (fs fs' : FileSystem) : Prop where
  keeps : fs.Keeps fs'
  wellFormed : fs.WellFormed → fs'.WellFormed
  deadEnd : ∀ {place}, fs.DeadEnd place → fs'.DeadEnd place
  /-- No file has got another name. -/
  sameFile : ∀ {a b}, fs'.sameFile a b = true → a = b ∨ fs.sameFile a b = true
  stays : ∀ {place}, place ∉ gone → fs.entry? place ≠ none → fs'.entry? place ≠ none

namespace Refiles

variable {gone : List Location}

theorem refl (fs : FileSystem) : Refiles gone fs fs := ⟨.refl fs, id, id, .inr, fun _ => id⟩

theorem trans {fs'' : FileSystem} (h : Refiles gone fs fs') (h' : Refiles gone fs' fs'') :
    Refiles gone fs fs'' :=
  ⟨h.keeps.trans h'.keeps, h'.wellFormed ∘ h.wellFormed, h'.deadEnd ∘ h.deadEnd,
    fun hsame => (h'.sameFile hsame).elim .inl h.sameFile,
    fun hplace => h'.stays hplace ∘ h.stays hplace⟩

theorem put (h : fs.DeadEnd place) (habove : fs.entry? place.dropLast = some .directory)
    (hfile : IsFile entry) : Refiles gone fs (fs.put place entry) where
  keeps := h.keeps_put hfile
  wellFormed hfs := hfs.put habove h.ne_nil fun hc => absurd hc h.not_directory
  deadEnd hother := hother.put h.ne_nil hfile
  sameFile {a b} hsame := .inr (sameFile_put h.ne_nil entry a b ▸ hsame)
  stays {other} _ hother := by
    rw [entry?_put h.ne_nil]
    split
    · exact fun hc => nomatch hc
    · exact hother

/-- What were two files are two files still. -/
theorem apart {a b : Location} (h : Refiles gone fs fs') (hne : a ≠ b)
    (hapart : ¬ fs.sameFile a b) : ¬ fs'.sameFile a b :=
  fun hsame => (h.sameFile hsame).elim hne hapart

theorem drop (h : fs.DeadEnd place) (hgone : place ∈ gone) :
    Refiles gone fs (fs.drop place) where
  keeps := h.keeps_drop
  wellFormed hfs := hfs.drop h.not_directory
  deadEnd hother := hother.drop h.ne_nil
  sameFile := sameFile_of_drop h.ne_nil
  stays {other} hstays hother := by
    have hne : other ≠ place := fun hc => hstays (hc ▸ hgone)
    rwa [entry?_drop h.ne_nil, if_neg hne]

end Refiles

theorem grows_of_write (h : fs.write path text = .ok fs') : fs.Grows fs' := by
  obtain ⟨place, hlocate, hentry, rfl⟩ := write_cases h
  -- A path is followed to its end, so a link there is not written over.
  have hlink := noLink_iff.mp (Terrain.noLink_of_follow (Terrain.along_eq_ok_iff.mp hlocate).2)
  refine grows_put (ne_nil_of_not_directory hentry) (fun _ hc => nomatch hc) ?_
  rcases hplace : fs.entry? place with _ | (_ | _ | _ | _ | target)
  · exact .inl rfl
  · exact absurd hplace hentry
  · exact .inr rfl
  · exact .inr rfl
  · exact .inr rfl
  · exact absurd hplace (hlink target)

/-! ### What is in a directory -/

theorem childName?_eq_some_iff : childName? dir place = some name ↔
    place = dir ++ [name] := by
  unfold childName?
  constructor
  · intro h
    split at h
    next last hlast =>
      split at h
      next hdir =>
        rw [← Option.some.inj h, ← beq_iff_eq.mp hdir]
        exact (List.dropLast_append_getLast? last hlast).symm
      next => simp only [reduceCtorEq] at h
    next => simp only [reduceCtorEq] at h
  · rintro rfl
    rw [List.getLast?_concat, List.dropLast_concat]
    exact if_pos (beq_self_eq_true dir)

/-- What is listed of a directory is what is found in it. -/
theorem WellFormed.mem_children (hfs : fs.WellFormed) :
    (name, entry) ∈ fs.children dir ↔ fs.entry? (dir ++ [name]) = some entry := by
  rw [hfs.entry?_iff (List.append_ne_nil_of_right_ne_nil _ (List.cons_ne_nil _ _)), children,
    List.mem_mergeSort, List.mem_filterMap]
  constructor
  · rintro ⟨⟨place, e⟩, hmem, he⟩
    obtain ⟨n, hname, heq⟩ := Option.map_eq_some_iff.mp he
    cases heq
    exact childName?_eq_some_iff.mp hname ▸ hmem
  · intro hmem
    have hname : childName? dir (dir ++ [name]) = some name := childName?_eq_some_iff.mpr rfl
    exact ⟨_, hmem, congrArg (Option.map _) hname⟩

/-- What is listed of a directory is in strictly ascending order of the names. -/
theorem WellFormed.children_ascending (hfs : fs.WellFormed) (dir : Location) :
    (fs.children dir).Pairwise fun a b => a.1 < b.1 := by
  -- Two with the same name would be at one place.
  refine ascending_mergeSort (List.pairwise_map.mpr (List.pairwise_filterMap.mpr ?_))
  refine (List.pairwise_map.mp hfs.distinct).imp ?_
  intro e e' hne a ha b hb heq
  obtain ⟨n, hn, rfl⟩ := Option.map_eq_some_iff.mp ha
  obtain ⟨m, hm, rfl⟩ := Option.map_eq_some_iff.mp hb
  have hnm : n = m := heq
  rw [childName?_eq_some_iff] at hn hm
  exact hne (by rw [hn, hm, hnm])

end FileSystem

end EnvProfiles
