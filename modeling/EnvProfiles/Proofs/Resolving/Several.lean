import EnvProfiles.Proofs.Resolving.Scopes
import EnvProfiles.Store.Memory

/-!
# Several Profiles Together

What a row of profiles exports, said by what each of them comes to on its own. A
resolver goes through the row with one memory, so profiles that share ancestors
are not resolved independently of each other; but it answers each of them as if
it were the only one, and the row can be read off from both its ends. Read from
the front, the first profile that cannot be resolved decides the fault. Read from
the back, the first profile that exports a name decides its value.

A profile that comes again later in the row is therefore not needed where it
comes first. The one exception is about faults: if it cannot be resolved itself,
it decides the fault at its first place, and a profile in between that cannot be
resolved either would decide it otherwise.

## Main definitions

* `Resolvable`: A profile can be resolved.
* `faultOf`, `resolutionOf`: The fault and the resolution of a profile, as far as
  there is one.

## Theorems

* `resolveProfiles_eq_error`: The first fault in a row is that of the row.
* `exists_exported`: What is exported under a name is found from the back.
* `resolveProfiles_laws`: The laws of a row.
* `not_every_duplicate_droppable`: A profile that cannot be resolved may not be
  left out where it comes first.
-/

namespace EnvProfiles

variable {σ : Type} [KeyStore σ] {store : σ}

/-- A profile can be resolved. -/
def Resolvable (store : σ) (key : String) : Prop := ∃ res, resolveProfile store key = .ok res

/-- The fault with which the resolution of a profile ends, if it does. -/
def faultOf (store : σ) (key : String) : Option Fault :=
  match resolveProfile store key with
  | .ok _ => none
  | .error fault => some fault

/-- What a profile comes to, and nothing if it cannot be resolved. -/
def resolutionOf (store : σ) (key : String) : Resolution :=
  (resolveProfile store key).toOption.getD default

section Single

variable {key name : String}

theorem faultOf_eq_some {fault : Fault} :
    faultOf store key = some fault ↔ resolveProfile store key = .error fault := by
  unfold faultOf
  cases resolveProfile store key <;> simp only [Option.some.injEq, Except.error.injEq, reduceCtorEq]

theorem faultOf_eq_none : faultOf store key = none ↔ Resolvable store key := by
  unfold faultOf Resolvable
  cases resolveProfile store key <;> simp only [Except.ok.injEq, exists_eq', reduceCtorEq,
    exists_false]

theorem resolutionOf_eq {res : Resolution} (h : resolveProfile store key = .ok res) :
    resolutionOf store key = res := by
  rw [resolutionOf, h]
  rfl

theorem Resolvable.resolveProfile_eq (h : Resolvable store key) :
    resolveProfile store key = .ok (resolutionOf store key) := by
  obtain ⟨res, hres⟩ := h
  rw [resolutionOf_eq hres, hres]

/-- A profile that can be resolved exports the names that it declares. -/
theorem Resolvable.mem_names_exports (h : Resolvable store key) :
    name ∈ (resolutionOf store key).exports.names ↔ DeclaresExport store key name :=
  (resolveProfile_eq_ok.mp h.resolveProfile_eq).mem_names_exports

end Single

section Row

variable {keys : List String}

/-- One resolver for a row of profiles answers as one for each of them. -/
theorem resolveProfiles_eq_gather (store : σ) (keys : List String) :
    resolveProfiles store keys = gather (resolveProfile store) Dict.collect keys .empty := by
  have hplain : resolveProfile store = resolveAlong store [] :=
    funext fun key => (Resolver.ready_fresh store).resolve_eq key
  rw [resolveProfiles, (Resolver.ready_fresh store).resolveMany_eq, hplain]

/-- The first fault in a row is that of the row. -/
theorem resolveProfiles_eq_error {fault : Fault} :
    resolveProfiles store keys = .error fault ↔ keys.findSome? (faultOf store) = some fault := by
  rw [resolveProfiles_eq_gather]
  -- What was taken before a fault does not count, so the row is followed with anything taken.
  generalize Dict.empty = taken
  induction keys generalizing taken with
  | nil => exact ⟨fun h => (nomatch h), fun h => (nomatch h)⟩
  | cons key keys ih =>
      rw [List.findSome?_cons]
      cases hv : resolveProfile store key with
      | ok done =>
          rw [gather_cons_ok hv, faultOf_eq_none.mpr ⟨done, hv⟩]
          exact ih _
      | error other =>
          rw [gather_cons_error hv, faultOf_eq_some.mpr hv, Except.error.injEq, Option.some.injEq]

theorem findSome?_faultOf_eq_none :
    keys.findSome? (faultOf store) = none ↔ ∀ key ∈ keys, Resolvable store key := by
  simp only [List.findSome?_eq_none_iff, faultOf_eq_none]

/-- If all profiles of a row can be resolved, then so can the row, and what it exports under a name
is what the last one exports that has it. -/
theorem exists_exported (h : ∀ key ∈ keys, Resolvable store key) :
    ∃ exported, resolveProfiles store keys = .ok exported ∧ ∀ name, exported.get? name
      = keys.reverse.findSome? fun key => (resolutionOf store key).exports.get? name := by
  have hall : ∀ key ∈ keys, resolveProfile store key = .ok (resolutionOf store key) :=
    fun key hkey => (h key hkey).resolveProfile_eq
  refine ⟨_, (resolveProfiles_eq_gather store keys).trans (gather_eq_ok hall), fun name => ?_⟩
  simp [Dict.get?_foldl fun exports key => Dict.get?_collect exports (resolutionOf store key) name]

/-- Rows with the same first fault and the same last profile of each kind come to the same. -/
theorem resolveProfiles_congr {other : List String}
    (hfault : keys.findSome? (faultOf store) = other.findSome? (faultOf store))
    (hvalue : ∀ value : String → Option String,
      keys.reverse.findSome? value = other.reverse.findSome? value) :
    resolveProfiles store keys = resolveProfiles store other := by
  -- A row is settled by its first fault, or else by what is found from the back.
  cases hfirst : keys.findSome? (faultOf store) with
  | some fault =>
      rw [resolveProfiles_eq_error.mpr hfirst, resolveProfiles_eq_error.mpr (hfault ▸ hfirst)]
  | none =>
      obtain ⟨exported, hkeys, hget⟩ := exists_exported (findSome?_faultOf_eq_none.mp hfirst)
      obtain ⟨exported', hother, hget'⟩ :=
        exists_exported (findSome?_faultOf_eq_none.mp (hfault.symm.trans hfirst))
      rw [hkeys, hother, Dict.ext_get? fun name => (hget name).trans
        ((hvalue _).trans (hget' name).symm)]

/-- A row exports the names that its profiles declare. -/
theorem mem_names_exported {exported : Dict} (h : ∀ key ∈ keys, Resolvable store key)
    (hexported : resolveProfiles store keys = .ok exported) (name : String) :
    name ∈ exported.names ↔ ∃ key ∈ keys, DeclaresExport store key name := by
  obtain ⟨exported', hkeys, hget⟩ := exists_exported h
  have heq : exported = exported' := Except.ok.inj (hexported.symm.trans hkeys)
  rw [heq, ← Dict.isSome_get?, hget, List.findSome?_isSome_iff]
  simp only [List.mem_reverse, Dict.isSome_get?]
  exact exists_congr fun key => and_congr_right fun hkey => (h key hkey).mem_names_exports

/-- Of the profiles that declare a name, the last one decides its value. -/
theorem get?_exported_of_last {exported : Dict} {before after : List String} {key name : String}
    (h : ∀ k ∈ before ++ key :: after, Resolvable store k)
    (hexported : resolveProfiles store (before ++ key :: after) = .ok exported)
    (hkey : DeclaresExport store key name) (hafter : ∀ k ∈ after, ¬ DeclaresExport store k name) :
    exported.get? name = (resolutionOf store key).exports.get? name := by
  obtain ⟨exported', hkeys, hget⟩ := exists_exported h
  have heq : exported = exported' := Except.ok.inj (hexported.symm.trans hkeys)
  -- The search from the back passes over the profiles behind this one.
  have hnone : (after.reverse.findSome? fun k => (resolutionOf store k).exports.get? name)
      = none := by
    rw [List.findSome?_eq_none_iff]
    intro k hk
    have hmem := List.mem_reverse.mp hk
    have hresolvable := h k (List.mem_append_right _ (List.mem_cons_of_mem _ hmem))
    exact Dict.get?_eq_none_iff.mpr (hresolvable.mem_names_exports.not.mpr (hafter k hmem))
  have hresolvable := h key (List.mem_append_right _ List.mem_cons_self)
  obtain ⟨value, hvalue⟩ := Dict.mem_names_iff.mp (hresolvable.mem_names_exports.mpr hkey)
  rw [heq, hget, List.reverse_append, List.reverse_cons, List.append_assoc, List.findSome?_append,
    hnone, Option.none_or, List.singleton_append, List.findSome?_cons, hvalue]

/-- A profile that comes again may be left out where it comes first, unless it decides the fault
there and another one would decide it otherwise. -/
theorem resolveProfiles_drop {before between after : List String} {key : String}
    (h : (∃ k ∈ before, ¬ Resolvable store k) ∨ Resolvable store key ∨
      ∀ k ∈ between, Resolvable store k) :
    resolveProfiles store (before ++ key :: between ++ key :: after)
      = resolveProfiles store (before ++ between ++ key :: after) := by
  apply resolveProfiles_congr
  · simp only [List.findSome?_append, List.findSome?_cons, List.append_assoc, List.cons_append]
    -- A fault before both places, none at either, or none between them.
    rcases h with hbefore | hkey | hbetween
    · have hsome : before.findSome? (faultOf store) ≠ none := by
        rw [ne_eq, findSome?_faultOf_eq_none, not_forall₂]
        exact hbefore.imp fun k hk => ⟨hk.1, hk.2⟩
      obtain ⟨fault, hfault⟩ := Option.ne_none_iff_exists'.mp hsome
      rw [hfault, Option.some_or, Option.some_or]
    · rw [faultOf_eq_none.mpr hkey]
    · rw [findSome?_faultOf_eq_none.mpr hbetween, Option.none_or]
      cases faultOf store key <;> rfl
  · intro value
    simp only [List.reverse_append, List.reverse_cons, List.findSome?_append, List.findSome?_cons,
      List.findSome?_nil, List.append_assoc]
    -- What the profile has is found where it comes last.
    cases after.reverse.findSome? value <;> cases value key <;>
      cases between.reverse.findSome? value <;> rfl

/-- A row in two parts is the second part laid over the first. -/
theorem exists_exported_append {lower upper : List String}
    (h : ∀ key ∈ lower ++ upper, Resolvable store key) :
    ∃ below above, resolveProfiles store lower = .ok below ∧
      resolveProfiles store upper = .ok above ∧
      resolveProfiles store (lower ++ upper) = .ok (below.merge above) := by
  obtain ⟨below, hlower, hbelow⟩ :=
    exists_exported fun key hkey => h key (List.mem_append_left _ hkey)
  obtain ⟨above, hupper, habove⟩ :=
    exists_exported fun key hkey => h key (List.mem_append_right _ hkey)
  obtain ⟨all, hall, hget⟩ := exists_exported h
  refine ⟨below, above, hlower, hupper, hall.trans (congrArg Except.ok ?_)⟩
  refine Dict.ext_get? fun name => ?_
  rw [hget, Dict.get?_merge, hbelow, habove, List.reverse_append, List.findSome?_append]

end Row

/-- The laws of a row of profiles. It fails if one of them cannot be resolved, with the fault of the
first such. Otherwise it exports the names that its profiles export themselves, each with the value
that the last one gives it. A profile that comes again may be left out where it comes first, unless
it is the first that cannot be resolved and one in between cannot be resolved either. And a row in
two parts is the second part laid over the first, if all can be resolved. -/
theorem resolveProfiles_laws (store : σ) (keys : List String) :
    (∀ fault, resolveProfiles store keys = .error fault ↔
      ∃ before key after, keys = before ++ key :: after ∧
        resolveProfile store key = .error fault ∧ ∀ k ∈ before, Resolvable store k) ∧
    ((∀ key ∈ keys, Resolvable store key) → ∃ exported, resolveProfiles store keys = .ok exported ∧
      (∀ name, name ∈ exported.names ↔ ∃ key ∈ keys, DeclaresExport store key name) ∧
      ∀ before key after name, keys = before ++ key :: after → DeclaresExport store key name →
        (∀ k ∈ after, ¬ DeclaresExport store k name) →
        ∃ done, resolveProfile store key = .ok done ∧
          exported.get? name = done.exports.get? name) ∧
    (∀ before key between after, keys = before ++ key :: between ++ key :: after →
      ((∃ k ∈ before, ¬ Resolvable store k) ∨ Resolvable store key ∨
        ∀ k ∈ between, Resolvable store k) →
      resolveProfiles store keys = resolveProfiles store (before ++ between ++ key :: after)) ∧
    ∀ lower upper, keys = lower ++ upper → (∀ key ∈ keys, Resolvable store key) →
      ∃ below above, resolveProfiles store lower = .ok below ∧
        resolveProfiles store upper = .ok above ∧
        resolveProfiles store keys = .ok (below.merge above) := by
  refine ⟨fun fault => ?_, fun h => ?_, ?_, ?_⟩
  · rw [resolveProfiles_eq_error, List.findSome?_eq_some_iff]
    simp only [faultOf_eq_some, faultOf_eq_none]
  · obtain ⟨exported, hexported, _⟩ := exists_exported h
    refine ⟨exported, hexported, mem_names_exported h hexported, ?_⟩
    rintro before key after name rfl hkey hafter
    have hresolvable := h key (List.mem_append_right _ List.mem_cons_self)
    exact ⟨_, hresolvable.resolveProfile_eq, get?_exported_of_last h hexported hkey hafter⟩
  · rintro before key between after rfl h
    exact resolveProfiles_drop h
  · rintro lower upper rfl h
    exact exists_exported_append h

/-- A profile that cannot be resolved may not be left out where it comes first: of two that are
missing, the one that is named first is reported. -/
theorem not_every_duplicate_droppable :
    ¬ ∀ (store : MemoryStore) (before between after : List String) (key : String),
      resolveProfiles store (before ++ key :: between ++ key :: after)
        = resolveProfiles store (before ++ between ++ key :: after) := by
  intro h
  -- Every profile is missing from the empty store.
  have hmissing : ∀ key, resolveProfile MemoryStore.empty key
      = .error (.profile (.notFound key)) := fun key =>
    ((Resolver.ready_fresh _).resolve_eq key).trans (resolveAlong_unread List.not_mem_nil rfl)
  have hfirst : ∀ key keys, resolveProfiles MemoryStore.empty (key :: keys)
      = .error (.profile (.notFound key)) := fun key keys =>
    (resolveProfiles_eq_gather _ _).trans (gather_cons_error (hmissing key))
  have heq := h MemoryStore.empty [] ["b"] [] "a"
  rw [List.nil_append, List.nil_append, List.cons_append, List.cons_append, hfirst, hfirst] at heq
  exact absurd heq (by decide)

end EnvProfiles
