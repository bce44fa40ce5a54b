import EnvProfiles.Store.Database
import EnvProfiles.Store.Memory

/-!
# Changes of a Store

A store is changed by setting, removing and renaming keys. Each change names the
keys it is about, and the text under any other key is as it was: that is what
`LocalStore` asks of a kind of store, and all three kinds have it. A change may
also be refused, and then there is no new store to speak of, so a store after a
row of changes is what the ones that were carried out have made of it.

## Main definitions

* `Change`: What can be done to a store.
* `Change.after`: A store after a row of changes.
* `LocalStore`: Changes leave the texts of other keys alone.

## Theorems

* `Change.get?_after`: A row of changes leaves the texts of other keys alone.
-/

namespace EnvProfiles

/-- What can be done to a store. -/
inductive Change where
  | set (key value : String)
  | delete (key : String)
  | rename (key newKey : String)
deriving DecidableEq, Repr

namespace Change

/-- The keys that a change is about. -/
def keys : Change → List String
  | set key _ => [key]
  | delete key => [key]
  | rename key newKey => [key, newKey]

variable {σ : Type} [KeyStore σ]

/-- Carries out a change, which may be refused. -/
def apply (store : σ) : Change → Except StoreFault σ
  | set key value => KeyStore.set store key value
  | delete key => KeyStore.delete store key
  | rename key newKey => KeyStore.rename store key newKey

/-- A store after a change, which is as it was if the change is refused. -/
def next (store : σ) (change : Change) : σ :=
  match change.apply store with
  | .ok changed => changed
  | .error _ => store

/-- A store after a row of changes. -/
def after (store : σ) (changes : List Change) : σ := changes.foldl next store

end Change

/-- A kind of store whose changes leave the texts of other keys alone. -/
class LocalStore (σ : Type) [KeyStore σ] : Prop where
  get?_apply : ∀ {store changed : σ} {change : Change} {key : String},
    change.apply store = .ok changed → key ∉ change.keys →
      KeyStore.get? changed key = KeyStore.get? store key

namespace Change

variable {σ : Type} [KeyStore σ] [LocalStore σ] {key : String}

theorem get?_next (store : σ) {change : Change} (h : key ∉ change.keys) :
    KeyStore.get? (change.next store) key = KeyStore.get? store key := by
  unfold next
  split
  next changed happly => exact LocalStore.get?_apply happly h
  next => rfl

/-- A row of changes leaves the texts of other keys alone. -/
theorem get?_after (store : σ) {changes : List Change} (h : ∀ c ∈ changes, key ∉ c.keys) :
    KeyStore.get? (after store changes) key = KeyStore.get? store key := by
  induction changes generalizing store with
  | nil => rfl
  | cons c changes ih =>
      exact (ih (c.next store) fun c' hc' => h c' (List.mem_cons_of_mem _ hc')).trans
        (get?_next store (h c List.mem_cons_self))

end Change

/-! ### The kinds of store -/

instance : LocalStore MemoryStore where
  get?_apply {store changed change key} h hkey := by
    refine congrArg Except.ok ?_
    cases change with
    | set k value =>
        cases h
        simp [List.ne_of_not_mem_cons hkey]
    | delete k =>
        cases h
        simp [List.ne_of_not_mem_cons hkey]
    | rename k newKey =>
        simp only [Change.keys, List.mem_cons, List.not_mem_nil, or_false, not_or] at hkey
        change MemoryStore.rename store k newKey = .ok changed at h
        unfold MemoryStore.rename at h
        split at h
        next => exact nomatch h
        -- Both keys are other ones, so the text is what it was.
        next value _ =>
          cases h
          simp [hkey]

namespace Table

@[simp] theorem select_delete (t : Table) (key other : String) :
    (t.delete key).select other = if other = key then none else t.select other :=
  Dict.lookup_filter key other t.rows

@[simp] theorem select_replace (t : Table) (key value other : String) :
    (t.replace key value).select other = if other = key then some value else t.select other := by
  change ((t.delete key).rows ++ [(key, value)]).lookup other = _
  rw [List.lookup_append, Dict.lookup_cons, List.lookup_nil]
  -- The new row is the last one, and no other row of its key is left.
  change ((t.delete key).select other).or _ = _
  rw [select_delete]
  split
  next => rfl
  next => exact Option.or_none

/-- What is moved is written under the new key before the old one is deleted. -/
theorem move_eq_ok {t moved : Table} {key newKey : String} (h : move key newKey t = .ok moved) :
    ∃ value, t.select key = some value ∧
      moved = if key = newKey then t else (t.replace newKey value).delete key := by
  unfold move at h
  split at h
  next => cases h
  next value hvalue => exact ⟨value, hvalue, (Except.ok.inj h).symm⟩

theorem rename_eq_move (t : Table) (key newKey : String) :
    t.rename key newKey = move key newKey t := by
  unfold rename transaction
  cases move key newKey t <;> rfl

theorem select_rename {t moved : Table} {key newKey other : String}
    (h : t.rename key newKey = .ok moved) (hkey : other ≠ key) (hnew : other ≠ newKey) :
    moved.select other = t.select other := by
  rw [rename_eq_move] at h
  obtain ⟨value, _, rfl⟩ := move_eq_ok h
  split
  next => rfl
  next => simp [hkey, hnew]

end Table

instance : LocalStore Table where
  get?_apply {store changed change key} h hkey := by
    refine congrArg Except.ok ?_
    cases change with
    | set k value =>
        cases h
        simp [List.ne_of_not_mem_cons hkey]
    | delete k =>
        cases h
        simp [List.ne_of_not_mem_cons hkey]
    | rename k newKey =>
        simp only [Change.keys, List.mem_cons, List.not_mem_nil, or_false, not_or] at hkey
        exact Table.select_rename h hkey.1 hkey.2

namespace Database

/-- A database whose table is changed can be read afterwards, and has the changed table. -/
theorem update_eq_ok {db changed : Database} {change : Table → Table}
    (h : db.update change = .ok changed) :
    ∃ table, db.readable? = .ok table ∧ changed.readable? = .ok (change table) := by
  unfold update at h
  cases htable : db.readable? with
  | error fault => rw [htable] at h; exact nomatch h
  | ok table =>
      rw [htable] at h
      refine ⟨table, rfl, ?_⟩
      -- What has been written can be read, for a table is written only to a sound database.
      by_cases hmay : (db.mayWrite && decide (db.condition = .sound)) = true
      · change (if _ then _ else _) = _ at h
        rw [if_pos hmay] at h
        cases h
        rw [readable?, (of_decide_eq_true (Bool.and_eq_true_iff.mp hmay).2)]
      · change (if _ then _ else _) = _ at h
        rw [if_neg hmay] at h
        exact nomatch h

theorem get?_eq (db : Database) (key : String) :
    KeyStore.get? db key = db.readable?.map fun t => t.select key := rfl

/-- A change of the table that leaves the row of a key alone leaves its text alone. -/
theorem get?_update {db changed : Database} {change : Table → Table} {key : String}
    (h : db.update change = .ok changed)
    (hkept : ∀ t, db.readable? = .ok t → (change t).select key = t.select key) :
    KeyStore.get? changed key = KeyStore.get? db key := by
  obtain ⟨table, htable, hchanged⟩ := update_eq_ok h
  rw [get?_eq, get?_eq, htable, hchanged]
  exact congrArg Except.ok (hkept table htable)

/-- To delete a key is no change, or a change of the table. -/
theorem delete_eq_ok {db changed : Database} {key : String} (h : db.delete key = .ok changed) :
    changed = db ∨ db.update (fun t => t.delete key) = .ok changed := by
  unfold delete at h
  cases htable : db.readable? with
  | error fault => rw [htable] at h; exact nomatch h
  | ok table =>
      rw [htable] at h
      change (if _ then _ else _) = _ at h
      split at h
      next => exact .inl (Except.ok.inj h).symm
      next => exact .inr h

/-- To rename a key is no change, or a change of the table to the one with the row moved. -/
theorem rename_eq_ok {db changed : Database} {key newKey : String}
    (h : db.rename key newKey = .ok changed) :
    changed = db ∨ ∃ table moved, db.readable? = .ok table ∧
      table.rename key newKey = .ok moved ∧ db.update (fun _ => moved) = .ok changed := by
  unfold rename at h
  cases htable : db.readable? with
  | error fault => rw [htable] at h; exact nomatch h
  | ok table =>
      rw [htable] at h
      change (table.rename key newKey).bind _ = _ at h
      cases hmoved : table.rename key newKey with
      | error fault => rw [hmoved] at h; exact nomatch h
      | ok moved =>
          rw [hmoved] at h
          change (if _ then _ else _) = _ at h
          split at h
          next => exact .inl (Except.ok.inj h).symm
          next => exact .inr ⟨table, moved, rfl, hmoved, h⟩

theorem get?_delete {db changed : Database} {key other : String} (h : db.delete key = .ok changed)
    (hne : other ≠ key) : KeyStore.get? changed other = KeyStore.get? db other := by
  rcases delete_eq_ok h with rfl | hupdate
  · rfl
  · exact get?_update hupdate fun t _ => by simp [hne]

theorem get?_rename {db changed : Database} {key newKey other : String}
    (h : db.rename key newKey = .ok changed) (hne : other ≠ key) (hnew : other ≠ newKey) :
    KeyStore.get? changed other = KeyStore.get? db other := by
  rcases rename_eq_ok h with rfl | ⟨table, moved, htable, hmoved, hupdate⟩
  · rfl
  · -- The row that is moved is that of another key, and it is moved in the same table.
    refine get?_update hupdate fun t ht => ?_
    rw [Table.select_rename hmoved hne hnew, Except.ok.inj (htable.symm.trans ht)]

end Database

instance : LocalStore Database where
  get?_apply {store changed change key} h hkey := by
    cases change with
    | set k value =>
        refine Database.get?_update h fun t _ => ?_
        simp [List.ne_of_not_mem_cons hkey]
    | delete k => exact Database.get?_delete h (List.ne_of_not_mem_cons hkey)
    | rename k newKey =>
        simp only [Change.keys, List.mem_cons, List.not_mem_nil, or_false, not_or] at hkey
        exact Database.get?_rename h hkey.1 hkey.2

end EnvProfiles
