import EnvProfiles.Proofs.Settings.Layers

/-!
# What a Table Says

Most tables of TOML are written plainly: each group is given once, under its own
name, and each option once within its group. Such a table says of an option what
stands under the name of the option in its group, and says nothing of it if
nothing stands there.

## Main definitions

* `TomlTable.option?`: What stands under a name in a group.
* `TomlTable.Distinct`: Groups and options are given once, under their names.

## Theorems

* `Loader.under_assignTable`: What is found in a group after a table was laid
  over what was said.
* `Source.says?_same`: A source says what stands in its table.
-/

namespace EnvProfiles

/-- The keys of a table; any other value has none. -/
def Toml.keys : Toml → List String
  | .table entries => entries.map Prod.fst
  | _ => []

namespace TomlTable

/-- What stands under a name in a group. -/
def option? (entries : TomlTable) (group name : String) : Option Toml :=
  match entries.lookup group with
  | some (.table options) => options.lookup name
  | _ => none

/-- Every group is given once, under its own name, and every option once in its group. -/
structure Distinct (entries : TomlTable) : Prop where
  words : ∀ e ∈ entries, Loader.pathOf e.1 = .single e.1
  groups : (entries.map Prod.fst).Nodup
  options : ∀ e ∈ entries, e.2.keys.Nodup

instance (entries : TomlTable) : Decidable (Distinct entries) :=
  decidable_of_iff
    ((∀ e ∈ entries, Loader.pathOf e.1 = .single e.1) ∧ (entries.map Prod.fst).Nodup ∧
      ∀ e ∈ entries, e.2.keys.Nodup)
    ⟨fun h => ⟨h.1, h.2.1, h.2.2⟩, fun h => ⟨h.words, h.groups, h.options⟩⟩

end TomlTable

namespace Setting

@[simp] theorem lookup_ofEntries (entries : TomlTable) (name : String) :
    (ofEntries entries).lookup name = (entries.lookup name).map ofToml := by
  induction entries with
  | nil => rfl
  | cons e r ih =>
      rw [ofEntries, Dict.lookup_cons, Dict.lookup_cons, ih]
      split <;> rfl

@[simp] theorem map_fst_ofEntries (entries : TomlTable) :
    (ofEntries entries).map Prod.fst = entries.map Prod.fst := by
  induction entries with
  | nil => rfl
  | cons e r ih => rw [ofEntries, List.map_cons, List.map_cons, ih]

theorem lookup_eq_none_of_not_mem {α : Type} {l : List (String × α)} {name : String}
    (h : name ∉ l.map Prod.fst) : l.lookup name = none :=
  Dict.lookup_eq_none fun e he hc => h (List.mem_map.mpr ⟨e, he, hc⟩)

/-- What stands under a name after entries were laid over a table in which no name comes twice. -/
theorem lookup_overlayEntries_of_nodup {entries : List (String × Setting)}
    (h : (entries.map Prod.fst).Nodup) (s : Setting) (name : String) :
    (overlayEntries s entries).entriesOf.lookup name = match entries.lookup name with
      | some value => some ((s.under name).overlay value)
      | none => s.entriesOf.lookup name := by
  induction entries generalizing s with
  | nil => rw [overlayEntries]; rfl
  | cons e r ih =>
      obtain ⟨hfresh, hr⟩ := List.nodup_cons.mp h
      rw [overlayEntries, ih hr, Dict.lookup_cons]
      by_cases hname : name = e.1
      -- The name does not come again, so the rest leaves alone what was laid first.
      · subst hname
        simp [lookup_eq_none_of_not_mem hfresh]
      · simp [hname, under]

end Setting

namespace Loader

open Setting

/-- What is found in a group after a table was laid over what was said. -/
theorem under_assignTable {entries : TomlTable}
    (hwords : ∀ e ∈ entries, pathOf e.1 = .single e.1) (h : (entries.map Prod.fst).Nodup)
    (root : Setting) (group : String) :
    (assignTable root entries).under group = match entries.lookup group with
      | some value => (root.under group).overlay (.ofToml value)
      | none => root.under group := by
  induction entries generalizing root with
  | nil => rfl
  | cons e r ih =>
      obtain ⟨hfresh, hr⟩ := List.nodup_cons.mp h
      have hfirst : assignKey root e.1 (.ofToml e.2) =
          root.change e.1 fun old => old.overlay (.ofToml e.2) := by
        rw [assignKey_eq, hwords e List.mem_cons_self]
        rfl
      -- The later entries have other keys, so the first one is not laid over again.
      have hrest := ih (fun e he => hwords e (List.mem_cons_of_mem _ he)) hr
        (assignKey root e.1 (.ofToml e.2))
      rw [Dict.lookup_cons]
      refine hrest.trans ?_
      rw [hfirst]
      by_cases hgroup : group = e.1
      · subst hgroup
        simp [lookup_eq_none_of_not_mem hfresh]
      · simp [hgroup]

end Loader

namespace Source

open Setting

/-- A source says of an option what stands under the name of the option in its table, and nothing if
nothing stands there. -/
theorem says?_same {fs : FileSystem} {source : Source} {entries : TomlTable}
    (h : source.table? fs = some entries) (hdistinct : TomlTable.Distinct entries)
    (hsections : Loader.SectionalTable entries) (k : SettingKey) :
    SameSaid (source.says? fs k)
      ((TomlTable.option? entries k.group k.name).map Setting.ofToml) := by
  rw [says?, h, Option.bind_some, said,
    Loader.under_assignTable hdistinct.words hdistinct.groups, TomlTable.option?]
  cases hgroup : entries.lookup k.group with
  | none => exact .inl rfl
  | some value =>
      have hmem := Dict.mem_of_lookup hgroup
      -- A word that is the name of a group leads to the whole group, which is therefore a table.
      have hpath := hdistinct.words _ hmem
      have hsection := hsections _ hmem k (congrArg KeyPath.root hpath)
      rw [hpath] at hsection
      obtain ⟨options, hvalue⟩ := hsection
      cases value with
      | table options =>
          have hnames : (options.map Prod.fst).Nodup := hdistinct.options _ hmem
          rw [← map_fst_ofEntries] at hnames
          dsimp only
          rw [ofToml, overlay, lookup_overlayEntries_of_nodup hnames, lookup_ofEntries]
          cases options.lookup k.name with
          | none => exact .inl rfl
          | some value => exact .inr ⟨_, _, rfl, rfl, same_overlay_self _ _⟩
      | _ => cases hvalue

end Source

end EnvProfiles
