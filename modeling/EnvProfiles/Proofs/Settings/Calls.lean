import EnvProfiles.Proofs.Settings.Order
import Mathlib.Data.List.Induction

/-!
# Calls on a Loader

A loader is made by a sequence of calls: sources are added, the start of the
names of variables is given, and options are set. What the loader holds in the
end can be told from the calls: all sources in their order, the start that was
given last, and for each option the value that was set last. So when the
settings are built, it makes no difference where among the sources a start was
given or an option was set, and neither does it in which order options were set.

## Main definitions

* `LoaderCall`: One call.
* `LoaderCall.loader`: What a sequence of calls makes.
* `LoaderCall.build`: The settings that come of it.
* `LoaderCall.sources`, `LoaderCall.lastStart`, `LoaderCall.lastSet`: What was
  said in the calls.
* `LoaderCall.Traced`: A loader holds what was said in the calls.

## Theorems

* `LoaderCall.Traced.run`: Each call is added to what was said.
* `LoaderCall.loader_traced`: Calls make a loader that holds what was said.
* `LoaderCall.build_congr`: Only what was said makes a difference.
-/

namespace EnvProfiles

/-- A call on a loader. -/
inductive LoaderCall where
  | add (source : Source)
  | withVariables (start : String)
  | set (k : SettingKey) (value : Setting)

namespace LoaderCall

/-- What a call makes of a loader. -/
def run (l : Loader) : LoaderCall → Except SettingsFault Loader
  | add source => .ok (l.add source)
  | withVariables start => .ok (l.withVariables start)
  | set k value => l.set? k.text value

/-- What calls make of a loader without sources. -/
def loader (calls : List LoaderCall) : Except SettingsFault Loader := calls.foldlM run .empty

/-- The settings that come of calls. -/
def build (calls : List LoaderCall) (fs : FileSystem) (environment : Dict) :
    Except SettingsFault Settings := do
  (← loader calls).load fs environment

/-- The source that a call adds. -/
def source? : LoaderCall → Option Source
  | add source => some source
  | _ => none

/-- The start of the names of variables that a call gives. -/
def start? : LoaderCall → Option String
  | withVariables start => some start
  | _ => none

/-- The value that a call sets for an option. -/
def value? (k : SettingKey) : LoaderCall → Option Setting
  | set k' value => if k' = k then some value else none
  | _ => none

/-- The sources that were added, in their order. -/
def sources (calls : List LoaderCall) : List Source := calls.filterMap source?

/-- The start that was given last. -/
def lastStart (calls : List LoaderCall) : Option String := calls.reverse.findSome? start?

/-- The value that was set last for an option. -/
def lastSet (calls : List LoaderCall) (k : SettingKey) : Option Setting :=
  calls.reverse.findSome? (value? k)

@[simp] theorem sources_append (calls more : List LoaderCall) :
    sources (calls ++ more) = sources calls ++ sources more := List.filterMap_append

@[simp] theorem lastStart_append (calls more : List LoaderCall) :
    lastStart (calls ++ more) = (lastStart more).or (lastStart calls) := by
  rw [lastStart, List.reverse_append, List.findSome?_append, lastStart, lastStart]

@[simp] theorem lastSet_append (calls more : List LoaderCall) (k : SettingKey) :
    lastSet (calls ++ more) k = (lastSet more k).or (lastSet calls k) := by
  rw [lastSet, List.reverse_append, List.findSome?_append, lastSet, lastSet]

@[simp] theorem lastSet_set (k k' : SettingKey) (value : Setting) :
    lastSet [.set k value] k' = if k = k' then some value else none :=
  List.findSome?_singleton

/-- What calls have set, as a list in which every option comes once. -/
structure Lists (calls : List LoaderCall) (sets : List (SettingKey × Setting)) : Prop where
  distinct : (sets.map Prod.fst).Nodup
  mem : ∀ k value, (k, value) ∈ sets ↔ lastSet calls k = some value

/-- A loader holds what was said in calls. -/
structure Traced (calls : List LoaderCall) (l : Loader) : Prop where
  sources_eq : l.sources = sources calls
  start_eq : l.variableStart = lastStart calls
  sets : ∃ sets, Lists calls sets ∧ l.overrides = sets.map fun o => (o.1.path, o.2)

theorem Lists.congr {calls calls' : List LoaderCall} {sets : List (SettingKey × Setting)}
    (h : Lists calls sets) (hset : ∀ k, lastSet calls' k = lastSet calls k) : Lists calls' sets :=
  ⟨h.distinct, fun k value => by rw [hset, h.mem]⟩

/-- Two lists of what was set differ in their order only. -/
theorem Lists.perm {calls : List LoaderCall} {sets sets' : List (SettingKey × Setting)}
    (h : Lists calls sets) (h' : Lists calls sets') : sets.Perm sets' :=
  (List.perm_ext_iff_of_nodup h.distinct.of_map h'.distinct.of_map).mpr fun o =>
    (h.mem o.1 o.2).trans (h'.mem o.1 o.2).symm

/-- Searching the list from the end, as layers are laid, finds what was set. -/
theorem Lists.findSome?_eq {calls : List LoaderCall} {sets : List (SettingKey × Setting)}
    (h : Lists calls sets) (k : SettingKey) :
    (sets.reverse.findSome? fun o => if o.1 = k then some o.2 else none) = lastSet calls k := by
  cases hfound : sets.reverse.findSome? fun o => if o.1 = k then some o.2 else none with
  | some value =>
      obtain ⟨o, ho, hvalue⟩ := List.exists_of_findSome?_eq_some hfound
      split at hvalue
      next hkey =>
        obtain rfl := Option.some.inj hvalue
        exact ((h.mem k o.2).mp (hkey ▸ List.mem_reverse.mp ho)).symm
      next => exact nomatch hvalue
  | none =>
      cases hset : lastSet calls k with
      | none => rfl
      | some value =>
          -- What was set last is in the list, so the search would have come to it.
          have hmem := List.mem_reverse.mpr ((h.mem k value).mpr hset)
          have hnone := List.findSome?_eq_none_iff.mp hfound _ hmem
          rw [if_pos rfl] at hnone
          exact nomatch hnone

/-- Setting an option replaces what was set for it. -/
theorem Lists.set {calls : List LoaderCall} {sets : List (SettingKey × Setting)}
    (h : Lists calls sets) (k : SettingKey) (value : Setting) :
    Lists (calls ++ [.set k value]) (sets.filter (fun o => o.1 != k) ++ [(k, value)]) := by
  constructor
  · rw [List.map_append, List.map_singleton, List.nodup_append]
    refine ⟨h.distinct.sublist (List.filter_sublist.map _), List.nodup_singleton k, ?_⟩
    intro k' hk' k'' hk'' hkey
    obtain ⟨o, ho, rfl⟩ := List.mem_map.mp hk'
    exact bne_iff_ne.mp (List.mem_filter.mp ho).2 (hkey.trans (List.mem_singleton.mp hk''))
  · intro k' value'
    rw [List.mem_append, List.mem_filter, h.mem]
    by_cases hkey : k = k'
    · subst hkey
      simp [eq_comm]
    · simp [hkey, Ne.symm hkey]

/-- Each call is added to what was said. -/
theorem Traced.run {calls : List LoaderCall} {l : Loader} (h : Traced calls l)
    (call : LoaderCall) : ∃ l', call.run l = .ok l' ∧ Traced (calls ++ [call]) l' := by
  obtain ⟨sets, hlists, hoverrides⟩ := h.sets
  cases call with
  | add source =>
      refine ⟨_, rfl, ?_, ?_, sets, hlists.congr fun k => lastSet_append .., hoverrides⟩
      · rw [sources_append, ← h.sources_eq]
        rfl
      · rw [lastStart_append, ← h.start_eq]
        rfl
  | withVariables start =>
      refine ⟨_, rfl, ?_, ?_, sets, hlists.congr fun k => lastSet_append .., hoverrides⟩
      · rw [sources_append, ← h.sources_eq]
        exact (List.append_nil _).symm
      · rw [lastStart_append]
        rfl
  | set k value =>
      refine ⟨{ l with overrides := l.overrides.filter (fun o => o.1 != k.path) ++
        [(k.path, value)] }, ?_, ?_, ?_, _, hlists.set k value, ?_⟩
      · rw [LoaderCall.run, Loader.set?, SettingKey.ofText?_text]
      · rw [sources_append, ← h.sources_eq]
        exact (List.append_nil _).symm
      · rw [lastStart_append, ← h.start_eq]
        rfl
      -- Paths are compared where options are meant, which is the same.
      · have hpath : ∀ o : SettingKey × Setting, (o.1.path != k.path) = (o.1 != k) := fun o => by
          rw [Bool.eq_iff_iff, bne_iff_ne, bne_iff_ne]
          exact not_congr ⟨SettingKey.path_injective, congrArg SettingKey.path⟩
        rw [hoverrides, List.filter_map, List.map_append]
        simp only [Function.comp_def, hpath]
        rfl

/-- Calls make a loader that holds what was said in them. -/
theorem loader_traced (calls : List LoaderCall) : ∃ l, loader calls = .ok l ∧ Traced calls l := by
  -- Later calls are made on what earlier ones have left, so the induction takes off the last one.
  induction calls using List.reverseRecOn with
  | nil => exact ⟨_, rfl, rfl, rfl, [], ⟨List.nodup_nil, fun _ _ => by simp [lastSet]⟩, rfl⟩
  | append_singleton calls call ih =>
      obtain ⟨l, hl, htraced⟩ := ih
      obtain ⟨l', hl', htraced'⟩ := htraced.run call
      refine ⟨l', ?_, htraced'⟩
      rw [loader, List.foldlM_append, ← loader, hl]
      exact (bind_pure (run l call)).trans hl'

/-- Only what was said in calls makes a difference: all sources in their order, the start that was
given last, and what was set last for each option. -/
theorem build_congr {calls calls' : List LoaderCall} (hsources : sources calls = sources calls')
    (hstart : lastStart calls = lastStart calls') (hset : ∀ k, lastSet calls k = lastSet calls' k)
    (fs : FileSystem) (environment : Dict) :
    build calls fs environment = build calls' fs environment := by
  obtain ⟨l, hl, h⟩ := loader_traced calls
  obtain ⟨l', hl', h'⟩ := loader_traced calls'
  obtain ⟨sets, hlists, hoverrides⟩ := h.sets
  obtain ⟨sets', hlists', hoverrides'⟩ := h'.sets
  rw [build, build, hl, hl']
  exact Loader.load_congr (h.sources_eq.trans (hsources.trans h'.sources_eq.symm))
    (h.start_eq.trans (hstart.trans h'.start_eq.symm)) hoverrides hoverrides'
    (hlists.perm (hlists'.congr hset)) hlists.distinct fs environment

end LoaderCall

end EnvProfiles
