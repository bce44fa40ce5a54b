import EnvProfiles.Proofs.Settings.Layers
import Mathlib.Data.List.Nodup
import Mathlib.Data.List.Perm.Basic

/-!
# The Order of Calls

Values that are set outright come after everything else, so where they were set
among the sources makes no difference, nor does the order in which options were
set. The tables that come of it may hold their keys in another order, but up to
that they are the same (`Setting.view`), and that order does not show in the
settings.

## Main definitions

* `Setting.relaid`: What is seen of a table after an option was set.
* `Loader.underlying?`: The values before any option was set.

## Theorems

* `Setting.view_assign`: To set an option is to be seen in that option.
* `Setting.relaid_comm`: Different options can be set in either order.
* `Loader.view_assignSets_perm`: So can any number of them.
* `Loader.load_congr`: Loaders that differ in that order come to the same.
-/

namespace EnvProfiles

/-- What is seen to stand under a name in a group. -/
def Outline.said : Option Outline → String → Option Setting
  | some (.table said) => said
  | _ => fun _ => none

namespace Setting

theorem isTable_assign (path : KeyPath) (value root : Setting) :
    (path.assign value root).IsTable := ⟨_, rfl⟩

theorem said_view (root : Setting) (group name : String) :
    Outline.said (root.view group) name = root.said group name := by
  rw [said, under, view]
  cases root.entriesOf.lookup group with
  | none => rfl
  | some s => cases s <;> rfl

/-- What is seen of a table after a value was laid over an option. -/
def relaid (k : SettingKey) (value : Setting) (seen : String → Option Outline) :
    String → Option Outline :=
  fun group =>
    if group = k.group then
      some (.table fun name =>
        if name = k.name then some (((Outline.said (seen group) name).getD nothing).overlay value)
        else Outline.said (seen group) name)
    else seen group

theorem view_assign (k : SettingKey) (value root : Setting) :
    (k.path.assign value root).view = relaid k value root.view := by
  funext group
  -- The change is seen in one group, and there under one name.
  rw [relaid, view, KeyPath.assign_eq, change, entriesOf, lookup_put, SettingKey.path]
  split
  next hgroup =>
    rw [Option.map_some, KeyPath.changeAt, change, outline]
    refine congrArg (fun said => some (Outline.table said)) (funext fun name => ?_)
    rw [lookup_put, said_view, said, hgroup, under]
    split
    next hname => rw [hname]; rfl
    next => rfl
  next => rfl

/-- Different options can be set in either order. -/
theorem relaid_comm {k k' : SettingKey} (hne : k ≠ k') (value value' : Setting)
    (seen : String → Option Outline) :
    relaid k value (relaid k' value' seen) = relaid k' value' (relaid k value seen) := by
  funext group
  simp only [relaid]
  by_cases hgroup : group = k.group
  · by_cases hgroup' : group = k'.group
    -- Two options of one group stand in the same table, but under different names.
    · simp only [if_pos hgroup, if_pos hgroup', Outline.said]
      refine congrArg (fun said => some (Outline.table said)) (funext fun name => ?_)
      have hnames : ¬ (name = k.name ∧ name = k'.name) := fun hc =>
        hne (SettingKey.eq_of_names (hgroup.symm.trans hgroup') (hc.1.symm.trans hc.2))
      by_cases hname : name = k.name
      · have hname' : name ≠ k'.name := fun hc => hnames ⟨hname, hc⟩
        simp only [if_pos hname, if_neg hname']
      · simp only [if_neg hname]
    · simp only [if_pos hgroup, if_neg hgroup']
  · simp only [if_neg hgroup]

end Setting

namespace Loader

open Setting

theorem view_assignSets (root : Setting) (sets : List (SettingKey × Setting)) :
    (assignSets root sets).view =
      sets.foldl (fun seen o => relaid o.1 o.2 seen) root.view :=
  (List.foldl_hom view fun root o => (view_assign o.1 o.2 root).symm).symm

/-- The order in which different options are set does not show. -/
theorem view_assignSets_perm {sets sets' : List (SettingKey × Setting)} (h : sets.Perm sets')
    (hdistinct : (sets.map Prod.fst).Nodup) (root : Setting) :
    (assignSets root sets).view = (assignSets root sets').view := by
  rw [view_assignSets, view_assignSets]
  refine h.foldl_eq' (fun o ho o' ho' seen => ?_) root.view
  by_cases hkey : o.1 = o'.1
  · -- An option is set once, so two entries for one option are the same entry.
    rw [List.inj_on_of_nodup_map hdistinct ho ho' hkey]
  · exact relaid_comm (Ne.symm hkey) o'.2 o.2 seen

theorem isTable_assignSets {root : Setting} (h : root.IsTable)
    (sets : List (SettingKey × Setting)) : (assignSets root sets).IsTable :=
  List.foldlRecOn sets _ h fun _ _ o _ => isTable_assign o.1.path o.2 _

theorem isTable_assignTable {root : Setting} (h : root.IsTable) (entries : TomlTable) :
    (assignTable root entries).IsTable :=
  List.foldlRecOn entries _ h fun _ _ _ _ => isTable_assign _ _ _

theorem isTable_assignSources {fs : FileSystem} {sources : List Source} {root root' : Setting}
    (h : assignSources fs sources root = some root') (hroot : root.IsTable) : root'.IsTable := by
  induction sources generalizing root with
  | nil =>
      obtain rfl := Option.some.inj h
      exact hroot
  | cons source r ih =>
      rw [assignSources] at h
      split at h
      next entries _ => exact ih h (isTable_assignTable hroot entries)
      next => cases h

theorem isTable_assignVariables {root : Setting} (h : root.IsTable) (start : String)
    (environment : Dict) : (assignVariables root start environment).IsTable := by
  refine List.foldlRecOn environment.toList _ h fun root hroot e _ => ?_
  split
  · exact isTable_assign _ _ _
  · exact hroot

/-- The order in which different options are set does not show in the settings. -/
theorem ofSetting?_assignSets {sets sets' : List (SettingKey × Setting)} (h : sets.Perm sets')
    (hdistinct : (sets.map Prod.fst).Nodup) {root : Setting} (hroot : root.IsTable) :
    Settings.ofSetting? (assignSets root sets) = Settings.ofSetting? (assignSets root sets') := by
  -- What is read off a table is what is seen of it.
  have hview := view_assignSets_perm h hdistinct root
  obtain ⟨after, hafter⟩ := isTable_assignSets hroot sets
  obtain ⟨after', hafter'⟩ := isTable_assignSets hroot sets'
  rw [hafter, hafter'] at hview ⊢
  exact Settings.ofSetting?_congr hview

/-- The values before any option was set outright. -/
def underlying? (l : Loader) (fs : FileSystem) (environment : Dict) : Option Setting :=
  (assignSources fs l.sources (table [])).map fun root =>
    match l.variableStart with
    | some start => assignVariables root start environment
    | none => root

theorem isTable_underlying? {l : Loader} {fs : FileSystem} {environment : Dict} {root : Setting}
    (h : l.underlying? fs environment = some root) : root.IsTable := by
  obtain ⟨root', hsources, rfl⟩ := Option.map_eq_some_iff.mp h
  have hroot := isTable_assignSources hsources ⟨[], rfl⟩
  split
  · exact isTable_assignVariables hroot _ environment
  · exact hroot

theorem values?_eq {l : Loader} {sets : List (SettingKey × Setting)}
    (h : l.overrides = sets.map fun o => (o.1.path, o.2)) (fs : FileSystem) (environment : Dict) :
    l.values? fs environment = (l.underlying? fs environment).map (assignSets · sets) := by
  rw [values?, underlying?, h, Option.map_map]
  simp only [Option.bind_eq_bind, Option.pure_def, List.foldl_map]
  cases assignSources fs l.sources (table []) <;> rfl

/-- Loaders that hold the same sources, the same start and the same options come to the same. -/
theorem load_congr {l l' : Loader} {sets sets' : List (SettingKey × Setting)}
    (hsources : l.sources = l'.sources) (hstart : l.variableStart = l'.variableStart)
    (hl : l.overrides = sets.map fun o => (o.1.path, o.2))
    (hl' : l'.overrides = sets'.map fun o => (o.1.path, o.2))
    (h : sets.Perm sets') (hdistinct : (sets.map Prod.fst).Nodup)
    (fs : FileSystem) (environment : Dict) : l.load fs environment = l'.load fs environment := by
  have hunder : l.underlying? fs environment = l'.underlying? fs environment := by
    rw [underlying?, underlying?, hsources, hstart]
  rw [load, load, values?_eq hl, values?_eq hl', ← hunder]
  cases hroot : l.underlying? fs environment with
  | none => rfl
  | some root =>
      rw [Option.map_some, Option.map_some, Option.bind_some, Option.bind_some,
        ofSetting?_assignSets h hdistinct (isTable_underlying? hroot)]

end Loader

end EnvProfiles
