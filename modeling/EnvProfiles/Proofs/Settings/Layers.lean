import EnvProfiles.Proofs.Settings.Options
import EnvProfiles.Settings.Loader

/-!
# Layers

What it does to an option that a source is laid over what was said before. The
source may say nothing of the option, and then it is left alone. Or it says
something, and then what was said before does not matter any more. It does not
matter altogether: a table is laid over a table key by key, so that something of
the former is left. But an option is never a table, so that neither the one nor
the other can be read, and to somebody who reads options they are the same.

That is said of what a source does (`IsLayer`), and it is kept when sources are
laid over each other. It takes that groups are given as tables. Otherwise a
source could say something of an option only because there was something of its
group before.

## Main definitions

* `Setting.Same`: Two values that no option can tell apart.
* `IsLayer`: A change that leaves what was said alone, or says what is to be
  read instead.
* `KeyPath.Sectional`: A path leads into a group that is a table.
* `Loader.SectionalTable`: Groups are given as tables.
* `Source.says?`: What a source says of an option by itself.
* `Loader.environmentSays?`: What the environment says of an option.

## Theorems

* `IsLayer.same_or`: What is said after a layer.
* `KeyPath.said_assign`: To lay a value over a path is a layer for each option.
* `Loader.said_assignTable`: So is to lay a table.
* `Loader.said_assignSources`, `Loader.said_assignVariables`,
  `Loader.said_assignSets`: What is said after each kind of layer.
-/

namespace EnvProfiles

namespace Setting

/-! ### Values that cannot be told apart -/

/-- A value that holds others, which no option can be. -/
def Compound : Setting → Prop
  | array _ => True
  | table _ => True
  | _ => False

/-- Two values that no option can tell apart. -/
def Same (v w : Setting) : Prop := v = w ∨ v.Compound ∧ w.Compound

theorem Same.symm {v w : Setting} (h : Same v w) : Same w v :=
  h.imp Eq.symm And.symm

theorem Same.trans {u v w : Setting} (h : Same u v) (h' : Same v w) : Same u w := by
  rcases h with rfl | ⟨hu, hv⟩
  · exact h'
  · rcases h' with rfl | ⟨_, hw⟩
    · exact .inr ⟨hu, hv⟩
    · exact .inr ⟨hu, hw⟩

theorem read_of_compound {v : Setting} (h : v.Compound) (k : SettingKey) : k.read v = none := by
  cases v with
  | array items => cases k <;> rfl
  | table entries => cases k <;> rfl
  | _ => exact h.elim

theorem Same.read_eq {v w : Setting} (h : Same v w) (k : SettingKey) : k.read v = k.read w := by
  rcases h with rfl | ⟨hv, hw⟩
  · rfl
  · rw [read_of_compound hv, read_of_compound hw]

/-- The same is said, or nothing in both cases. -/
def SameSaid (a b : Option Setting) : Prop :=
  a = b ∨ ∃ v w, a = some v ∧ b = some w ∧ Same v w

theorem SameSaid.trans {a b c : Option Setting} (h : SameSaid a b) (h' : SameSaid b c) :
    SameSaid a c := by
  rcases h with rfl | ⟨u, v, rfl, rfl, huv⟩
  · exact h'
  · rcases h' with rfl | ⟨v', w, hv, rfl, hvw⟩
    · exact .inr ⟨u, v, rfl, rfl, huv⟩
    · obtain rfl := Option.some.inj hv
      exact .inr ⟨u, w, rfl, rfl, huv.trans hvw⟩

theorem SameSaid.or {a b : Option Setting} (h : SameSaid a b) (first : Option Setting) :
    SameSaid (first.or a) (first.or b) := by
  cases first with
  | none => exact h
  | some v => exact .inl rfl

theorem SameSaid.valueOf_eq {a b : Option Setting} (h : SameSaid a b) (k : SettingKey) :
    k.valueOf a = k.valueOf b := by
  rcases h with rfl | ⟨v, w, rfl, rfl, hvw⟩
  · rfl
  · exact hvw.read_eq k

/-! ### Tables -/

@[simp] theorem entriesOf_table (entries : List (String × Setting)) :
    (table entries).entriesOf = entries := rfl

@[simp] theorem entriesOf_ground (s : Setting) : s.ground.entriesOf = s.entriesOf := rfl

@[simp] theorem entriesOf_change (s : Setting) (key : String) (f : Setting → Setting) :
    (s.change key f).entriesOf = put key (f (s.under key)) s.entriesOf := rfl

@[simp] theorem lookup_put (key other : String) (value : Setting)
    (entries : List (String × Setting)) :
    (put key value entries).lookup other =
      if other = key then some value else entries.lookup other := by
  induction entries with
  | nil => rw [put, Dict.lookup_cons]
  | cons e r ih =>
      rw [put]
      split
      next heq =>
        rw [Dict.lookup_cons, Dict.lookup_cons, beq_iff_eq.mp heq]
        split <;> rfl
      next hne =>
        -- The entry keeps its value, and the new one stands further on.
        have hkey : e.1 ≠ key := fun hc => hne (beq_iff_eq.mpr hc)
        rw [Dict.lookup_cons, Dict.lookup_cons, ih]
        by_cases hother : other = e.1
        · rw [if_pos hother, if_pos hother, if_neg (hother ▸ hkey)]
        · rw [if_neg hother, if_neg hother]

@[simp] theorem under_change (s : Setting) (key other : String) (f : Setting → Setting) :
    (s.change key f).under other = if other = key then f (s.under key) else s.under other := by
  rw [under, change, entriesOf, lookup_put]
  split <;> rfl

theorem overlayEntries_table (entries before : List (String × Setting)) :
    ∃ after, overlayEntries (table before) entries = table after := by
  induction entries generalizing before with
  | nil => exact ⟨before, by rw [overlayEntries]⟩
  | cons e r ih =>
      rw [overlayEntries]
      exact ih _

theorem overlay_table (s : Setting) (entries : List (String × Setting)) :
    ∃ after, s.overlay (table entries) = table after := by
  rw [overlay, ground]
  exact overlayEntries_table entries _

/-- What is laid over something can be told without what was there. -/
theorem same_overlay_self (value before : Setting) : Same (before.overlay value) value := by
  cases value with
  | table entries =>
      obtain ⟨after, hafter⟩ := before.overlay_table entries
      exact .inr ⟨by rw [hafter]; trivial, trivial⟩
  | _ => exact .inl (by rw [overlay])

theorem same_overlay (value before before' : Setting) :
    Same (before.overlay value) (before'.overlay value) :=
  (same_overlay_self value before).trans (same_overlay_self value before').symm

end Setting

/-! ### Layers -/

/-- A change of what is said of an option that leaves it alone, or else says something that can be
told without what was said before. -/
def IsLayer (h : Option Setting → Option Setting) : Prop :=
  (∀ before, h before = before) ∨
    ∃ m : Option Setting → Setting, (∀ before, h before = some (m before)) ∧
      ∀ before before', (m before).Same (m before')

namespace IsLayer

variable {h h' : Option Setting → Option Setting}

theorem same : IsLayer fun before => before := .inl fun _ => rfl

theorem comp (hl : IsLayer h) (hl' : IsLayer h') : IsLayer fun before => h' (h before) := by
  -- If the later layer says something, it does not show whether the earlier one does.
  rcases hl' with hsame | ⟨m', hm', hsame'⟩
  · simpa only [hsame] using hl
  · exact .inr ⟨fun before => m' (h before), fun before => hm' (h before),
      fun before before' => hsame' (h before) (h before')⟩

/-- What is said after a layer is what the layer says by itself, or else what was said before. -/
theorem same_or (hl : IsLayer h) (before : Option Setting) :
    Setting.SameSaid (h before) ((h none).or before) := by
  rcases hl with hsame | ⟨m, hm, hsame⟩
  · rw [hsame, hsame]
    exact .inl rfl
  · rw [hm, hm]
    exact .inr ⟨m before, m none, rfl, rfl, hsame before none⟩

end IsLayer

namespace Setting

variable {group name : String}

/-- Entries that are laid over a table are a layer for what stands under a name in it. -/
theorem lookup_overlayEntries (name : String) (entries : List (String × Setting)) :
    ∃ h, IsLayer h ∧ ∀ s : Setting,
      (overlayEntries s entries).entriesOf.lookup name = h (s.entriesOf.lookup name) := by
  induction entries with
  | nil => exact ⟨_, .same, fun s => by rw [overlayEntries]⟩
  | cons e r ih =>
      obtain ⟨key, value⟩ := e
      obtain ⟨h, hl, hrest⟩ := ih
      by_cases hname : name = key
      -- The first entry is laid before the rest, and a later one under the same name goes over it.
      · have hfirst : IsLayer fun before => some ((before.getD nothing).overlay value) :=
          .inr ⟨_, fun _ => rfl, fun _ _ => same_overlay value _ _⟩
        refine ⟨_, hfirst.comp hl, fun s => ?_⟩
        subst hname
        simp [overlayEntries, hrest, under]
      · refine ⟨h, hl, fun s => ?_⟩
        simp [overlayEntries, hrest, hname]

end Setting

namespace KeyPath

open Setting

/-- A path leads into a group that is a table, or to the group itself with a value that is one. -/
def Sectional (path : KeyPath) (value : Setting) : Prop :=
  match path.steps with
  | [] => value.IsTable
  | .key _ :: _ => True
  | .item _ :: _ => False

instance : ∀ (path : KeyPath) (value : Setting), Decidable (path.Sectional value)
  | ⟨_, []⟩, value => inferInstanceAs (Decidable value.IsTable)
  | ⟨_, .key _ :: _⟩, _ => .isTrue trivial
  | ⟨_, .item _ :: _⟩, _ => .isFalse id

/-- A value that is laid over what steps lead to can be told without what was there. -/
theorem same_changeAt (steps : List KeyStep) (value before before' : Setting) :
    Same (changeAt (·.overlay value) steps before) (changeAt (·.overlay value) steps before') := by
  cases steps with
  | nil => exact same_overlay value before before'
  | cons step steps =>
      cases step with
      | key name => exact .inr ⟨trivial, trivial⟩
      | item number => exact .inr ⟨trivial, trivial⟩

theorem assign_eq (path : KeyPath) (value root : Setting) :
    path.assign value root = root.change path.root (changeAt (·.overlay value) path.steps) := rfl

/-- To lay a value over what a path leads to is a layer for every option. -/
theorem said_assign {path : KeyPath} {value : Setting} (group name : String)
    (hsections : path.root = group → path.Sectional value) :
    ∃ h, IsLayer h ∧ ∀ root : Setting,
      (path.assign value root).said group name = h (root.said group name) := by
  obtain ⟨first, steps⟩ := path
  by_cases hgroup : group = first
  -- In the group of the option, a path leads to the whole group, to the option, or past it.
  · have hsection := hsections hgroup.symm
    cases steps with
    | nil =>
        obtain ⟨entries, rfl⟩ := hsection
        obtain ⟨h, hl, hentries⟩ := lookup_overlayEntries name entries
        refine ⟨h, hl, fun root => ?_⟩
        subst hgroup
        simp [assign_eq, said, changeAt, overlay, hentries]
    | cons step steps =>
        cases step with
        | item number => exact hsection.elim
        | key next =>
            by_cases hname : name = next
            · refine ⟨_, .inr ⟨fun before =>
                changeAt (·.overlay value) steps (before.getD nothing), fun _ => rfl,
                fun _ _ => same_changeAt steps value _ _⟩, fun root => ?_⟩
              subst hgroup hname
              simp [assign_eq, said, changeAt, under]
            · refine ⟨_, .same, fun root => ?_⟩
              subst hgroup
              simp [assign_eq, said, changeAt, hname]
  · refine ⟨_, .same, fun root => ?_⟩
    simp [assign_eq, said, hgroup]

/-- Groups that are tables stay tables. -/
theorem sectioned_assign {path : KeyPath} {value root : Setting} (hs : root.Sectioned)
    (hsections : ∀ k : SettingKey, path.root = k.group → path.Sectional value) :
    (path.assign value root).Sectioned := by
  cases root with
  | table entries =>
      intro k group hgroup
      rw [lookup_put] at hgroup
      split at hgroup
      next hroot =>
        obtain rfl := Option.some.inj hgroup
        -- The group is changed as a whole by a table, or in one of its options.
        have hsection := hsections k hroot.symm
        obtain ⟨first, steps⟩ := path
        cases steps with
        | nil =>
            obtain ⟨options, rfl⟩ := hsection
            exact overlay_table _ options
        | cons step steps =>
            cases step with
            | key name => exact ⟨_, rfl⟩
            | item number => exact hsection.elim
      next => exact hs k group hgroup
  | _ => exact hs.elim

end KeyPath

namespace Loader

open Setting

/-- The path that a key of a source leads to. -/
def pathOf (key : String) : KeyPath := (KeyPath.ofText? key).getD (.single key)

theorem assignKey_eq (root : Setting) (key : String) (value : Setting) :
    assignKey root key value = (pathOf key).assign value root := rfl

theorem pathOf_text (k : SettingKey) : pathOf k.text = k.path := by
  rw [pathOf, k.ofText?_text]
  rfl

/-- A table of TOML gives groups of options as tables only. -/
def SectionalTable (entries : TomlTable) : Prop :=
  ∀ e ∈ entries, ∀ k : SettingKey, (pathOf e.1).root = k.group →
    (pathOf e.1).Sectional (.ofToml e.2)

instance (entries : TomlTable) : Decidable (SectionalTable entries) :=
  inferInstanceAs (Decidable (∀ e ∈ entries, ∀ k : SettingKey, (pathOf e.1).root = k.group →
    (pathOf e.1).Sectional (.ofToml e.2)))

variable {entries : TomlTable}

/-- To lay a table of TOML over what was said is a layer for every option. -/
theorem said_assignTable (h : SectionalTable entries) (k : SettingKey) :
    ∃ layer, IsLayer layer ∧ ∀ root : Setting,
      (assignTable root entries).said k.group k.name = layer (root.said k.group k.name) := by
  induction entries with
  | nil => exact ⟨_, .same, fun _ => rfl⟩
  | cons e r ih =>
      obtain ⟨rest, hrest, hsaid⟩ := ih fun e he => h e (List.mem_cons_of_mem _ he)
      obtain ⟨first, hfirst, hassign⟩ :=
        KeyPath.said_assign k.group k.name (h e List.mem_cons_self k)
      refine ⟨_, hfirst.comp hrest, fun root => ?_⟩
      rw [← hassign root]
      exact hsaid (assignKey root e.1 (.ofToml e.2))

theorem sectioned_assignTable {root : Setting} (h : SectionalTable entries)
    (hs : root.Sectioned) : (assignTable root entries).Sectioned := by
  induction entries generalizing root with
  | nil => exact hs
  | cons e r ih =>
      exact ih (fun e he => h e (List.mem_cons_of_mem _ he))
        (KeyPath.sectioned_assign hs (h e List.mem_cons_self))

end Loader

/-! ### Sources -/

namespace Source

open Setting

/-- What a source says of an option by itself. -/
def says? (fs : FileSystem) (k : SettingKey) (source : Source) : Option Setting :=
  (source.table? fs).bind fun entries => (Loader.assignTable (table []) entries).said k.group k.name

/-- A source gives groups of options as tables only, if it can be read. -/
def Sectional (fs : FileSystem) (source : Source) : Prop :=
  ∀ entries, source.table? fs = some entries → Loader.SectionalTable entries

instance (fs : FileSystem) (source : Source) : Decidable (source.Sectional fs) :=
  inferInstanceAs (Decidable (∀ entries ∈ source.table? fs, Loader.SectionalTable entries))

end Source

namespace Loader

open Setting

/-- The values before anything is said. -/
theorem sectioned_empty : (table []).Sectioned := fun _ _ h => nomatch h

@[simp] theorem said_empty (group name : String) : (table []).said group name = none := rfl

/-- After sources have been laid over each other, the last that says something of an option has said
it. -/
theorem said_assignSources {fs : FileSystem} {sources : List Source} {root root' : Setting}
    (h : assignSources fs sources root = some root') (hs : root.Sectioned)
    (hsections : ∀ source ∈ sources, source.Sectional fs) :
    root'.Sectioned ∧ ∀ k : SettingKey, SameSaid (root'.said k.group k.name)
      ((sources.reverse.findSome? (Source.says? fs k)).or (root.said k.group k.name)) := by
  induction sources generalizing root with
  | nil =>
      obtain rfl := Option.some.inj h
      exact ⟨hs, fun k => .inl rfl⟩
  | cons source r ih =>
      rw [assignSources] at h
      cases htable : source.table? fs with
      | none => rw [htable] at h; exact nomatch h
      | some entries =>
          rw [htable] at h
          have hsection := hsections source List.mem_cons_self entries htable
          obtain ⟨hs', hrest⟩ := ih h (sectioned_assignTable hsection hs)
            fun source hsource => hsections source (List.mem_cons_of_mem _ hsource)
          refine ⟨hs', fun k => ?_⟩
          obtain ⟨layer, hlayer, hsaid⟩ := said_assignTable hsection k
          -- What the source says by itself is what its layer says over nothing.
          have hown : source.says? fs k = layer none := by
            simp [Source.says?, htable, hsaid]
          rw [List.reverse_cons, List.findSome?_append, List.findSome?_singleton, Option.or_assoc,
            hown]
          have hfirst := hlayer.same_or (root.said k.group k.name)
          rw [← hsaid] at hfirst
          exact (hrest k).trans (hfirst.or _)

/-! ### Single options -/

/-- What is said of an option after a value was laid over an option. -/
theorem said_assign_path (k k' : SettingKey) (value root : Setting) :
    (k'.path.assign value root).said k.group k.name =
      if k' = k then some (((root.said k.group k.name).getD nothing).overlay value)
      else root.said k.group k.name := by
  by_cases hkey : k' = k
  · subst hkey
    simp [KeyPath.assign_eq, said, SettingKey.path, KeyPath.changeAt, under]
  · by_cases hgroup : k.group = k'.group
    · -- Two options of one group have different names.
      have hname : k.name ≠ k'.name := fun hc =>
        hkey (SettingKey.eq_of_names hgroup.symm hc.symm)
      simp [KeyPath.assign_eq, said, SettingKey.path, KeyPath.changeAt, hkey, hgroup, hname]
    · simp [KeyPath.assign_eq, said, SettingKey.path, hkey, hgroup]

theorem same_said_assign_path (k k' : SettingKey) (value root : Setting) :
    SameSaid ((k'.path.assign value root).said k.group k.name)
      ((if k' = k then some value else none).or (root.said k.group k.name)) := by
  rw [said_assign_path]
  split
  · exact .inr ⟨_, value, rfl, rfl, same_overlay_self value _⟩
  · exact .inl rfl

theorem sectioned_assign_path {root : Setting} (hs : root.Sectioned) (k : SettingKey)
    (value : Setting) : (k.path.assign value root).Sectioned :=
  KeyPath.sectioned_assign hs fun _ _ => trivial

/-- After values have been laid over options, the last that was laid over an option is what is said
of it. -/
theorem said_foldl {α : Type} {step : Setting → α → Setting}
    {laid : SettingKey → α → Option Setting} {l : List α}
    (hstep : ∀ a ∈ l, ∀ root : Setting, root.Sectioned → (step root a).Sectioned ∧
      ∀ k : SettingKey, SameSaid ((step root a).said k.group k.name)
        ((laid k a).or (root.said k.group k.name)))
    {root : Setting} (hs : root.Sectioned) :
    (l.foldl step root).Sectioned ∧ ∀ k : SettingKey,
      SameSaid ((l.foldl step root).said k.group k.name)
        ((l.reverse.findSome? (laid k)).or (root.said k.group k.name)) := by
  induction l generalizing root with
  | nil => exact ⟨hs, fun k => .inl rfl⟩
  | cons a l ih =>
      obtain ⟨hfirst, hsaid⟩ := hstep a List.mem_cons_self root hs
      obtain ⟨hall, hrest⟩ := ih (fun a ha => hstep a (List.mem_cons_of_mem _ ha)) hfirst
      refine ⟨hall, fun k => (hrest k).trans ?_⟩
      rw [List.reverse_cons, List.findSome?_append, List.findSome?_singleton, Option.or_assoc]
      exact (hsaid k).or _

/-! ### Variables -/

/-- The variables of an environment that belong to the settings name one option each, no two of
them the same. -/
structure NamesOptions (start : String) (environment : Dict) : Prop where
  names : ∀ e ∈ environment.toList, ∀ key, variableKey? start e.1 = some key →
    ∃ k : SettingKey, key = k.text
  distinct : ∀ e ∈ environment.toList, ∀ e' ∈ environment.toList, ∀ key,
    variableKey? start e.1 = some key → variableKey? start e'.1 = some key → e = e'

instance (start : String) (environment : Dict) : Decidable (NamesOptions start environment) :=
  decidable_of_iff
    ((∀ e ∈ environment.toList, ∀ key ∈ variableKey? start e.1, ∃ k : SettingKey, key = k.text) ∧
      ∀ e ∈ environment.toList, ∀ e' ∈ environment.toList, ∀ key ∈ variableKey? start e.1,
        variableKey? start e'.1 = some key → e = e')
    ⟨fun h => ⟨h.1, h.2⟩, fun h => ⟨h.names, h.distinct⟩⟩

/-- What a variable says of an option. -/
def variableSays? (start : String) (k : SettingKey) (e : String × String) : Option Setting :=
  if variableKey? start e.1 = some k.text then some (variableValue e.2) else none

/-- What the environment says of an option, in the variable that names it. -/
def environmentSays? (start : String) (environment : Dict) (k : SettingKey) : Option Setting :=
  environment.toList.findSome? (variableSays? start k)

/-- What a search finds is found from the end as well if there is nothing else to be found. -/
theorem findSome?_reverse {α β : Type} {f : α → Option β} {l : List α}
    (h : ∀ a ∈ l, ∀ b ∈ l, (f a).isSome → (f b).isSome → a = b) :
    l.reverse.findSome? f = l.findSome? f := by
  induction l with
  | nil => rfl
  | cons a l ih =>
      have hl := ih fun b hb c hc => h b (List.mem_cons_of_mem _ hb) c (List.mem_cons_of_mem _ hc)
      rw [List.reverse_cons, List.findSome?_append, List.findSome?_singleton, hl,
        List.findSome?_cons]
      cases hrest : l.findSome? f with
      | none => cases f a <;> rfl
      | some w =>
          cases hfirst : f a with
          | none => rfl
          | some v =>
              -- Something was found twice, which can only be the same.
              obtain ⟨b, hb, hfb⟩ := List.exists_of_findSome?_eq_some hrest
              obtain rfl := h a List.mem_cons_self b (List.mem_cons_of_mem _ hb)
                (by rw [hfirst]; rfl) (by rw [hfb]; rfl)
              exact hfb.symm.trans hfirst

theorem NamesOptions.reverse_eq {start : String} {environment : Dict}
    (h : NamesOptions start environment) (k : SettingKey) :
    environment.toList.reverse.findSome? (variableSays? start k) =
      environmentSays? start environment k := by
  refine findSome?_reverse fun a ha b hb hsa hsb => ?_
  unfold variableSays? at hsa hsb
  split at hsa
  next hka =>
    split at hsb
    next hkb => exact h.distinct a ha b hb k.text hka hkb
    next => exact nomatch hsb
  next => exact nomatch hsa

/-- After the variables have been laid over what was said, the one that names an option has said
it. -/
theorem said_assignVariables {start : String} {environment : Dict} {root : Setting}
    (h : NamesOptions start environment) (hs : root.Sectioned) :
    (assignVariables root start environment).Sectioned ∧ ∀ k : SettingKey,
      SameSaid ((assignVariables root start environment).said k.group k.name)
        ((environmentSays? start environment k).or (root.said k.group k.name)) := by
  simp only [← h.reverse_eq]
  refine said_foldl (fun e he root hs => ?_) hs
  cases hkey : variableKey? start e.1 with
  | none =>
      refine ⟨hs, fun k => .inl ?_⟩
      rw [variableSays?, hkey, if_neg fun hc => nomatch hc]
      rfl
  | some key =>
      -- The variable names an option, so its value is laid over that one.
      obtain ⟨k', rfl⟩ := h.names e he key hkey
      dsimp only
      rw [assignKey_eq, pathOf_text]
      refine ⟨sectioned_assign_path hs k' _, fun k => ?_⟩
      have hown : variableSays? start k e = if k' = k then some (variableValue e.2) else none := by
        simp only [variableSays?, hkey, Option.some.injEq, SettingKey.text_inj]
      rw [hown]
      exact same_said_assign_path k k' _ root

/-- Lays values over options, one after the other. -/
def assignSets (root : Setting) (sets : List (SettingKey × Setting)) : Setting :=
  sets.foldl (fun root o => o.1.path.assign o.2 root) root

/-- After values have been set outright, the last that was set for an option is what is said of
it. -/
theorem said_assignSets {root : Setting} (hs : root.Sectioned)
    (sets : List (SettingKey × Setting)) :
    (assignSets root sets).Sectioned ∧ ∀ k : SettingKey,
      SameSaid ((assignSets root sets).said k.group k.name)
        ((sets.reverse.findSome? fun o => if o.1 = k then some o.2 else none).or
          (root.said k.group k.name)) :=
  said_foldl (fun o _ root hs =>
    ⟨sectioned_assign_path hs o.1 o.2, fun k => same_said_assign_path k o.1 o.2 root⟩) hs

end Loader

end EnvProfiles
