import EnvProfiles.Command.Transfer
import EnvProfiles.Proofs.Files.Directories
import EnvProfiles.Proofs.Stores.Contents

/-!
# What an Import Stores

What a store holds after texts have been read from files, one file after the
other, and which files of a directory are read. The order of the files is that
of their names. If every file of a key has the text that some contents have for
the key, the store takes these keys over from the contents, and keeps what it
holds of other keys.

## Main definitions

* `Contents.takeOver`: The texts of some keys are those of other contents.
* `Command.IsRegular`: What an import reads.

## Theorems

* `Command.mem_regularFiles`, `Command.regularFiles_ascending`: Which files are
  read, and in which order.
* `Command.readAll_ok`: What the store holds afterwards.
* `Command.readAll_keys`: Which keys are returned.
* `Command.importAll_eq`: An import reads the files of the directory.
-/

namespace EnvProfiles

/-- The texts of some keys are those of other contents. -/
def Contents.takeOver (c' : Contents) (keys : List String) (c : Contents) : Contents :=
  fun key => if key ∈ keys then c key else c' key

/-- To take keys over is to put the text of the first one, and to take over the others. The first
one may be among these again, for contents have one text for it. -/
theorem Contents.takeOver_cons {c c' : Contents} {key text : String} (h : c key = some text)
    (keys : List String) : c'.takeOver (key :: keys) c = (c'.set key text).takeOver keys c := by
  funext k
  rw [takeOver, takeOver, set]
  by_cases hlater : k ∈ keys
  · rw [if_pos (List.mem_cons_of_mem _ hlater), if_pos hlater]
  · by_cases hnow : k = key
    · rw [if_pos (List.mem_cons.mpr (.inl hnow)), if_neg hlater, if_pos hnow, hnow, h]
    · rw [if_neg (fun hc => (List.mem_cons.mp hc).elim hnow hlater), if_neg hlater, if_neg hnow]

/-- If all keys that have a text are taken over, the other contents are left where there is none. -/
theorem Contents.takeOver_all {c : Contents} {keys : List String}
    (h : ∀ key, key ∈ keys ↔ ∃ text, c key = some text) (c' : Contents) :
    c'.takeOver keys c = fun key => (c key).or (c' key) := by
  funext key
  rw [takeOver]
  split
  next hmem =>
    obtain ⟨text, htext⟩ := (h key).mp hmem
    rw [htext, Option.some_or]
  next hmem =>
    -- A key that is not taken over has no text in `c`.
    have habsent : c key = none := by
      rw [Option.eq_none_iff_forall_ne_some]
      exact fun text htext => hmem ((h key).mpr ⟨text, htext⟩)
    rw [habsent, Option.none_or]

namespace Command

variable {fs : FileSystem} {dir : Location} {path name : String} {settings : ExportSettings}

/-- What an import reads: neither a directory nor a link. -/
def IsRegular (entry : Entry) : Prop := entry ≠ .directory ∧ ∀ target, entry ≠ .link target

theorem regularName_eq_some_iff {entry : Entry} {found : String} :
    (match entry with
      | .directory => none
      | .link _ => none
      | _ => some name) = some found ↔ IsRegular entry ∧ name = found := by
  cases entry with
  | directory => exact ⟨fun h => (nomatch h), fun h => absurd rfl h.1.1⟩
  | link target => exact ⟨fun h => (nomatch h), fun h => absurd rfl (h.1.2 target)⟩
  | text _ | octets _ | database _ =>
      -- Whatever else a file holds, it counts as one.
      have hregular : ∀ {entry : Entry}, entry ≠ .directory → (∀ target, entry ≠ .link target) →
          IsRegular entry := And.intro
      exact ⟨fun h => ⟨hregular (fun hc => nomatch hc) (fun _ hc => nomatch hc), Option.some.inj h⟩,
        fun h => congrArg some h.2⟩

theorem mem_regularFiles {entries : List (String × Entry)} :
    name ∈ regularFiles entries ↔ ∃ entry, (name, entry) ∈ entries ∧ IsRegular entry := by
  rw [regularFiles, List.mem_filterMap]
  constructor
  · rintro ⟨⟨n, entry⟩, hmem, hname⟩
    obtain ⟨hregular, rfl⟩ := regularName_eq_some_iff.mp hname
    exact ⟨entry, hmem, hregular⟩
  · rintro ⟨entry, hmem, hregular⟩
    exact ⟨(name, entry), hmem, regularName_eq_some_iff.mpr ⟨hregular, rfl⟩⟩

theorem regularFiles_ascending {entries : List (String × Entry)}
    (h : entries.Pairwise fun a b => a.1 < b.1) : (regularFiles entries).Pairwise (· < ·) := by
  refine List.pairwise_filterMap.mpr (h.imp fun {a b} hab n hn m hm => ?_)
  obtain ⟨_, rfl⟩ := regularName_eq_some_iff.mp hn
  obtain ⟨_, rfl⟩ := regularName_eq_some_iff.mp hm
  exact hab

/-- An import reads the regular files in the directory that its path leads to. -/
theorem importAll_eq {τ : Type} [KeyStore τ] (other : τ) (hlocate : fs.locate path = .ok dir)
    (hdir : fs.entry? dir = some .directory) :
    importAll other path settings fs =
      readAll settings path fs (regularFiles (fs.children dir)) other := by
  have hisDirectory := FileSystem.isDirectory_iff.mpr ⟨dir, hlocate, hdir⟩
  rw [importAll, hisDirectory, FileSystem.list_eq hlocate hdir]
  rfl

/-- A file that can be read is stored, and then the others are read. -/
theorem readAll_cons {τ : Type} [KeyStore τ] {other changed : τ} {file text : String}
    (files : List String) (hread : fs.read (Path.join path file) = .ok text)
    (hset : KeyStore.set other (settings.keyFor file) text = .ok changed) :
    readAll settings path fs (file :: files) other =
      ⟨(readAll settings path fs files changed).outcome.map (settings.keyFor file :: ·),
        (readAll settings path fs files changed).store,
        imported (settings.keyFor file) ++ (readAll settings path fs files changed).output⟩ := by
  conv_lhs => unfold readAll
  simp only [hread, hset]

/-- Texts are put under the keys of their files, and other keys are left alone. -/
theorem readAll_ok {τ : Type} [KeyStore τ] [ContentStore τ] {other : τ} {c c' : Contents}
    {files : List String} (hother : ContentStore.Holds other c')
    (hread : ∀ file ∈ files, ∃ text, fs.read (Path.join path file) = .ok text ∧
      c (settings.keyFor file) = some text) :
    (readAll settings path fs files other).outcome = .ok (files.map settings.keyFor) ∧
      ContentStore.Holds (readAll settings path fs files other).store
        (c'.takeOver (files.map settings.keyFor) c) := by
  induction files generalizing other c' with
  | nil =>
      have hsame : c'.takeOver [] c = c' := funext fun key => if_neg List.not_mem_nil
      rw [List.map_nil, hsame]
      exact ⟨rfl, hother⟩
  | cons file files ih =>
      obtain ⟨text, htext, hkey⟩ := hread file List.mem_cons_self
      -- The store holds the text of this file when the others are read, which may replace it.
      obtain ⟨changed, hset, hchanged⟩ := ContentStore.set_eq hother (settings.keyFor file) text
      obtain ⟨houtcome, hholds⟩ := ih hchanged fun f hf => hread f (List.mem_cons_of_mem _ hf)
      rw [readAll_cons files htext hset, houtcome, List.map_cons, Contents.takeOver_cons hkey]
      exact ⟨rfl, hholds⟩

/-- An import that succeeds returns the key of every file. -/
theorem readAll_keys {τ : Type} [KeyStore τ] {other : τ} {files keys : List String}
    (h : (readAll settings path fs files other).outcome = .ok keys) :
    keys = files.map settings.keyFor := by
  induction files generalizing other keys with
  | nil => exact (Except.ok.inj h).symm
  | cons file files ih =>
      -- A fault of this file, of the store or of a later file would have been that of the import.
      cases hread : fs.read (Path.join path file) with
      | error refusal =>
          unfold readAll at h
          simp only [hread, reduceCtorEq] at h
      | ok text =>
          cases hset : KeyStore.set other (settings.keyFor file) text with
          | error fault =>
              unfold readAll at h
              simp only [hread, hset, reduceCtorEq] at h
          | ok changed =>
              rw [readAll_cons files hread hset] at h
              dsimp only at h
              cases hrest : (readAll settings path fs files changed).outcome with
              | error fault =>
                  rw [hrest] at h
                  exact nomatch h
              | ok rest =>
                  rw [hrest] at h
                  rw [List.map_cons, ← ih hrest]
                  exact (Except.ok.inj h).symm

end Command

end EnvProfiles
