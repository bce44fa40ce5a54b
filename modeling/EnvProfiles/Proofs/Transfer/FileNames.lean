import EnvProfiles.Command.Transfer
import EnvProfiles.Proofs.Files.Paths

/-!
# Keys and the Names of Their Files

The name of the file of a key tells the key. That holds for every key that is
not empty and for every extension, since the extension is taken off the end of
the name and it does not matter what stands before: a key may hold dots, or end
in the extension itself. So no two keys share a file.

A key that can name a file within a directory does so with the extension as
well, unless that holds a slash.

The way back is not as clear. A file whose name does not end in the extension
stands for its whole name, so a key can have two files: `a` and `a.yml` both
stand for `a`. There are no more than these two, and `a.yml` is the later one in
the order of names. A file such as `.yml`, with nothing before the extension,
stands for its whole name as well.

## Theorems

* `Command.namesFile_iff`: Which keys can name a file.
* `ExportSettings.keyFor_fileName`: The name of a file tells the key.
* `ExportSettings.fileName_injective`: No two keys share a file.
* `ExportSettings.isName_fileName`: The name of a file can name one.
* `ExportSettings.stem?_eq_some_iff`: Which names end in the extension.
* `ExportSettings.keyFor_eq_iff`: Which files stand for a key.
* `ExportSettings.lt_fileName`: Of two files of a key, which is the later one.
-/

namespace EnvProfiles

/-- The keys that are let through are those that can name something in a directory. -/
theorem Command.namesFile_iff {key : String} : namesFile key = true ↔ IsName key := by
  rw [namesFile, Bool.and_eq_true, Bool.and_eq_true, Bool.and_eq_true, bne_iff_ne, bne_iff_ne,
    bne_iff_ne, Bool.not_eq_true', List.contains_eq_mem, decide_eq_false_iff_not]
  exact ⟨fun ⟨⟨⟨hempty, hdot⟩, hdots⟩, hslash⟩ => ⟨hempty, hdot, hdots, hslash⟩,
    fun h => ⟨⟨⟨h.ne_empty, h.ne_dot⟩, h.ne_dots⟩, h.no_slash⟩⟩

namespace ExportSettings

variable {s : ExportSettings} {key key' : String}

theorem toList_fileName (s : ExportSettings) (key : String) :
    (s.fileName key).toList = (key.toList ++ ['.']) ++ s.extension.toList := by
  rw [fileName, String.toList_append, String.toList_append]
  rfl

theorem withoutSuffix?_append (cs ending : List Char) :
    withoutSuffix? (cs ++ ending) ending = some cs := by
  rw [withoutSuffix?, if_pos (List.isSuffixOf_iff_suffix.mpr (List.suffix_append cs ending)),
    List.length_append, Nat.add_sub_cancel, List.take_left]

/-- The name of a file tells the key, whatever the key and the extension hold. -/
theorem keyFor_fileName (s : ExportSettings) (h : key ≠ "") : s.keyFor (s.fileName key) = key := by
  have hkey : key.toList.isEmpty = false :=
    List.isEmpty_eq_false_iff.mpr fun hc => h (String.toList_eq_nil_iff.mp hc)
  -- Extension and dot are cut off one after the other, and what is left of a key is not empty.
  have hstem : s.stem? (s.fileName key) = some key := by
    rw [stem?, toList_fileName, withoutSuffix?_append, Option.bind_eq_bind, Option.bind_some,
      withoutSuffix?_append, Option.bind_some, hkey]
    exact congrArg some String.ofList_toList
  rw [keyFor, hstem, Option.getD_some]

/-- No two keys share a file. -/
theorem fileName_injective (h : s.fileName key = s.fileName key') : key = key' := by
  have hlist := congrArg String.toList h
  rw [toList_fileName, toList_fileName, List.append_cancel_right_eq,
    List.append_cancel_right_eq] at hlist
  exact String.toList_inj.mp hlist

/-- With the extension, a key that can name something in a directory does so still. -/
theorem isName_fileName (h : IsName key) (hext : '/' ∉ s.extension.toList) :
    IsName (s.fileName key) := by
  obtain ⟨c, cs, hkey⟩ := List.exists_cons_of_ne_nil h.toList_ne_nil
  have hlist := toList_fileName s key
  refine ⟨fun hc => ?_, fun hc => ?_, fun hc => ?_, ?_⟩
  · rw [hc, hkey] at hlist
    exact nomatch hlist
  · -- A single dot would leave nothing for the dot before the extension.
    rw [hc, hkey] at hlist
    have hrest : [] = cs ++ ['.'] ++ s.extension.toList := (List.cons.inj hlist).2
    rw [List.append_assoc] at hrest
    exact absurd (List.append_eq_nil_iff.mp hrest.symm).2 (List.cons_ne_nil _ _)
  · rw [hc, hkey] at hlist
    have hrest : ['.'] = cs ++ ['.'] ++ s.extension.toList := (List.cons.inj hlist).2
    have hdot : c = '.' := (List.cons.inj hlist).1.symm
    -- Two dots would be a key of one dot, with the dot before the extension and nothing after it.
    cases cs with
    | nil =>
        rw [hdot] at hkey
        exact h.ne_dot (String.toList_inj.mp hkey)
    | cons c' cs =>
        have hnil : [] = cs ++ ['.'] ++ s.extension.toList := (List.cons.inj hrest).2
        rw [List.append_assoc] at hnil
        exact absurd (List.append_eq_nil_iff.mp hnil.symm).2 (List.cons_ne_nil _ _)
  · rw [hlist, List.mem_append, List.mem_append, List.mem_singleton, not_or, not_or]
    exact ⟨⟨h.no_slash, by decide⟩, hext⟩

/-! ### The files of a key -/

theorem withoutSuffix?_eq_some_iff {cs ending rest : List Char} :
    withoutSuffix? cs ending = some rest ↔ cs = rest ++ ending := by
  constructor
  · intro h
    rw [withoutSuffix?] at h
    split at h
    next hsuffix =>
      obtain ⟨front, rfl⟩ := List.isSuffixOf_iff_suffix.mp hsuffix
      rw [List.length_append, Nat.add_sub_cancel, List.take_left] at h
      rw [Option.some.inj h]
    next => exact nomatch h
  · rintro rfl
    exact withoutSuffix?_append rest ending

/-- What is taken for the key of a name is what stands before the extension, if anything does. -/
theorem stem?_eq_some_iff {file stem : String} :
    s.stem? file = some stem ↔ stem ≠ "" ∧ file = s.fileName stem := by
  rw [stem?, Option.bind_eq_bind, Option.bind_eq_some_iff]
  simp only [Option.bind_eq_some_iff, withoutSuffix?_eq_some_iff, Option.pure_def]
  constructor
  · rintro ⟨_, hfile, cs, rfl, hstem⟩
    split at hstem
    next => exact nomatch hstem
    next hcs =>
      obtain rfl := Option.some.inj hstem
      refine ⟨fun hc => hcs ?_, String.toList_inj.mp ?_⟩
      · rw [List.isEmpty_iff, ← String.toList_ofList (l := cs), hc]
        rfl
      · rw [toList_fileName, String.toList_ofList, hfile]
  · rintro ⟨hstem, rfl⟩
    refine ⟨_, toList_fileName s stem, stem.toList, rfl, ?_⟩
    rw [if_neg fun hc => hstem (String.toList_eq_nil_iff.mp (List.isEmpty_iff.mp hc)),
      String.ofList_toList]

/-- A name ends in the extension without being nothing but that. -/
def IsExtended (s : ExportSettings) (name : String) : Prop :=
  ∃ stem, stem ≠ "" ∧ name = s.fileName stem

theorem stem?_eq_none_iff {file : String} : s.stem? file = none ↔ ¬ s.IsExtended file := by
  rw [Option.eq_none_iff_forall_ne_some, IsExtended, not_exists]
  exact forall_congr' fun stem => not_congr stem?_eq_some_iff

/-- A key has two files at the most: its name with the extension, and its name alone, unless that
ends in the extension and so stands for another key. -/
theorem keyFor_eq_iff {file : String} :
    s.keyFor file = key ↔
      key ≠ "" ∧ file = s.fileName key ∨ file = key ∧ ¬ s.IsExtended key := by
  rw [keyFor]
  -- Either the name is that of an extended file, of just one key, or it is taken as it is.
  cases hstem : s.stem? file with
  | some stem =>
      rw [Option.getD_some]
      have hfile := stem?_eq_some_iff.mp hstem
      constructor
      · rintro rfl
        exact .inl hfile
      · rintro (⟨_, hkey⟩ | ⟨rfl, hplain⟩)
        · exact fileName_injective (hfile.2.symm.trans hkey)
        · exact absurd ⟨stem, hfile⟩ hplain
  | none =>
      rw [Option.getD_none]
      have hplain := stem?_eq_none_iff.mp hstem
      constructor
      · rintro rfl
        exact .inr ⟨rfl, hplain⟩
      · rintro (hkey | ⟨hkey, _⟩)
        · exact absurd ⟨key, hkey⟩ hplain
        · exact hkey

/-- Of two files of a key, the one with the extension comes later in the order of names. -/
theorem lt_fileName (s : ExportSettings) (key : String) : key < s.fileName key := by
  -- The key is a proper beginning of the name.
  have hrest : [] < ['.'] ++ s.extension.toList := List.Lex.nil
  have hlt : key.toList ++ [] < key.toList ++ (['.'] ++ s.extension.toList) :=
    List.append_left_lt hrest
  rw [List.append_nil, ← List.append_assoc, ← toList_fileName] at hlt
  exact String.lt_iff.mpr hlt

end ExportSettings

end EnvProfiles
