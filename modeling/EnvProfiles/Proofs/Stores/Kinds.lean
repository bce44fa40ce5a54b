import EnvProfiles.Proofs.Stores.Contents

/-!
# Kinds of Stores and Their Contents

All three kinds of store have contents. For a store in memory these are its
dictionary. For a table they are what is selected from it, as long as no key has
two rows, which is what replacing a row keeps. The order in which rows were
written does not show, nor how a key is renamed: a row is written and another
deleted in a table, while in a dictionary the text is taken out before it is put
back. A database answers as its table does, if it can be read and written.

## Main definitions

* `Table.Holds`: The contents of a table in which no key has two rows.
* `Database.Usable`: A database that can be read and written.

## Theorems

* `Contents.move_eq`: To write and delete is to take out and put back.
* `Table.Holds.replace`, `Table.Holds.delete`: Rows stay distinct.
* `Database.Usable.answer_eq`: A usable database answers as its table.
* `Database.reads`: A database that can be read has the contents of its table.
-/

namespace EnvProfiles

namespace Contents

theorem delete_eq_self {c : Contents} {key : String} (h : c key = none) : c.delete key = c := by
  funext k
  by_cases hk : k = key
  · simp [hk, h]
  · simp [hk]

theorem set_delete_self {c : Contents} {key text : String} (h : c key = some text) :
    (c.delete key).set key text = c := by
  funext k
  by_cases hk : k = key
  · simp [hk, h]
  · simp [hk]

/-- To write a text under another key and delete the old one is to take it out and put it back. -/
theorem move_eq (c : Contents) {key newKey : String} (text : String) (h : newKey ≠ key) :
    (c.set newKey text).delete key = (c.delete key).set newKey text := by
  funext k
  by_cases hk : k = key
  · simp [hk, h.symm]
  · simp [hk]

end Contents

/-! ### Stores in memory -/

namespace Dict

theorem distinct (d : Dict) : (d.entries.map Prod.fst).Nodup := by
  refine List.pairwise_map.mpr (d.ascending.imp fun {a b} hlt heq => ?_)
  exact String.lt_irrefl b.1 (heq ▸ hlt)

/-- A dictionary lists its contents. -/
theorem lists (d : Dict) : Contents.Lists d.get? d.entries where
  ascending := d.ascending
  mem_iff _ _ := (lookup_eq_some_iff_mem d.distinct).symm

theorem get?_insert_eq (d : Dict) (key text : String) :
    (d.insert key text).get? = Contents.set d.get? key text :=
  funext fun k => get?_insert d key text k

theorem get?_erase_eq (d : Dict) (key : String) :
    (d.erase key).get? = Contents.delete d.get? key :=
  funext fun k => get?_erase d key k

end Dict

namespace MemoryStore

theorem apply_rename {s : MemoryStore} {key text : String} (newKey : String)
    (h : s.dict.get? key = some text) :
    (Change.rename key newKey).apply s = .ok ⟨(s.dict.erase key).insert newKey text⟩ := by
  change s.rename key newKey = _
  rw [rename, h]

theorem apply_rename_absent {s : MemoryStore} {key : String} (newKey : String)
    (h : s.dict.get? key = none) :
    (Change.rename key newKey).apply s = .error (.notFound key) := by
  change s.rename key newKey = _
  rw [rename, h]

end MemoryStore

instance : ContentStore MemoryStore where
  Holds store c := store.dict.get? = c
  holds_answer {store c} request h := by
    subst h
    cases request with
    | get key => exact ⟨_, .get key, rfl⟩
    | keys => exact ⟨_, .keys store.dict.lists.keys, rfl⟩
    | entries => exact ⟨_, .entries store.dict.lists, rfl⟩
    | change change =>
        cases change with
        | set key text => exact ⟨_, .set key text, Dict.get?_insert_eq _ _ _⟩
        | delete key =>
            cases hkey : store.dict.get? key with
            | none =>
                refine ⟨_, .deleteAbsent hkey, ?_⟩
                exact (Dict.get?_erase_eq _ _).trans (Contents.delete_eq_self hkey)
            | some text => exact ⟨_, .delete hkey, Dict.get?_erase_eq _ _⟩
        | rename key newKey =>
            cases hkey : store.dict.get? key with
            | none =>
                rw [Request.answer_of_error (MemoryStore.apply_rename_absent newKey hkey)]
                exact ⟨_, .renameAbsent newKey hkey, rfl⟩
            | some text =>
                rw [Request.answer_of_ok (MemoryStore.apply_rename newKey hkey)]
                -- The old key is erased first, so a key that is its own new one gets its text back.
                have hmoved : ((store.dict.erase key).insert newKey text).get?
                    = Contents.set (Contents.delete store.dict.get? key) newKey text := by
                  rw [Dict.get?_insert_eq, Dict.get?_erase_eq]
                by_cases hne : newKey = key
                · subst hne
                  exact ⟨_, .renameSame hkey, hmoved.trans (Contents.set_delete_self hkey)⟩
                · exact ⟨_, .rename hkey hne, hmoved⟩

/-! ### Tables -/

namespace Table

/-- A table has contents if no key has two rows: what is selected from it. -/
structure Holds (t : Table) (c : Contents) : Prop where
  distinct : (t.rows.map Prod.fst).Nodup
  select : t.select = c

theorem holds_empty : empty.Holds Contents.empty := ⟨.nil, rfl⟩

namespace Holds

variable {t : Table} {c : Contents}

/-- The rows of a table in order list its contents. -/
theorem lists (h : t.Holds c) : c.Lists t.ordered where
  ascending := ascending_mergeSort h.distinct
  mem_iff key text := by
    rw [ordered, List.mem_mergeSort, ← lookup_eq_some_iff_mem h.distinct, ← h.select]
    rfl

theorem delete (h : t.Holds c) (key : String) : (t.delete key).Holds (c.delete key) where
  distinct := h.distinct.sublist (List.filter_sublist.map Prod.fst)
  select := funext fun k => by simp [h.select]

/-- A row is written where there is none of its key any more. -/
theorem replace (h : t.Holds c) (key text : String) :
    (t.replace key text).Holds (c.set key text) where
  distinct := by
    have hrest := (h.delete key).distinct
    -- The row is added where all rows of its key have been deleted.
    have hnew : key ∉ (t.delete key).rows.map Prod.fst := by
      intro hmem
      obtain ⟨row, hrow, hkey⟩ := List.mem_map.mp hmem
      exact bne_iff_ne.mp (List.mem_filter.mp hrow).2 hkey
    rw [Table.replace, List.map_append]
    refine List.nodup_append.mpr ⟨hrest, List.nodup_singleton _, fun a ha b hb hab => ?_⟩
    rw [List.map_singleton, List.mem_singleton] at hb
    rw [hab, hb] at ha
    exact hnew ha
  select := funext fun k => by simp [h.select]

end Holds

/-- To delete a row that is not there leaves all rows. -/
theorem delete_eq_self {t : Table} {key : String} (h : t.select key = none) : t.delete key = t := by
  have hall : ∀ row ∈ t.rows, (row.1 != key) = true := by
    intro row hrow
    have hne := List.lookup_eq_none_iff.mp h row hrow
    rw [bne_iff_ne] at hne ⊢
    exact hne.symm
  rw [delete, List.filter_eq_self.mpr hall]

theorem apply_rename_absent {t : Table} {key : String} (newKey : String)
    (h : t.select key = none) : (Change.rename key newKey).apply t = .error (.notFound key) := by
  change t.rename key newKey = _
  rw [rename_eq_move, move, h]

theorem apply_rename_self {t : Table} {key text : String} (h : t.select key = some text) :
    (Change.rename key key).apply t = .ok t := by
  change t.rename key key = _
  rw [rename_eq_move, move, h]
  exact congrArg Except.ok (if_pos rfl)

theorem apply_rename {t : Table} {key newKey text : String} (h : t.select key = some text)
    (hne : newKey ≠ key) :
    (Change.rename key newKey).apply t = .ok ((t.replace newKey text).delete key) := by
  change t.rename key newKey = _
  rw [rename_eq_move, move, h]
  exact congrArg Except.ok (if_neg hne.symm)

end Table

instance : ContentStore Table where
  Holds := Table.Holds
  holds_answer {t c} request h := by
    -- The table has a row for a key exactly if the contents have a text for it.
    have hselect : ∀ key, t.select key = c key := congrFun h.select
    cases request with
    | get key =>
        refine ⟨c, ?_, h⟩
        have hget := Contents.Answers.get (c := c) key
        rwa [← hselect] at hget
    | keys => exact ⟨c, .keys h.lists.keys, h⟩
    | entries => exact ⟨c, .entries h.lists, h⟩
    | change change =>
        cases change with
        | set key text => exact ⟨_, .set key text, h.replace key text⟩
        | delete key =>
            cases hkey : c key with
            | none => exact ⟨c, .deleteAbsent hkey, Contents.delete_eq_self hkey ▸ h.delete key⟩
            | some text => exact ⟨_, .delete hkey, h.delete key⟩
        | rename key newKey =>
            cases hkey : c key with
            | none =>
                rw [Request.answer_of_error
                  (Table.apply_rename_absent newKey ((hselect key).trans hkey))]
                exact ⟨c, .renameAbsent newKey hkey, h⟩
            | some text =>
                by_cases hne : newKey = key
                · subst hne
                  rw [Request.answer_of_ok (Table.apply_rename_self ((hselect newKey).trans hkey))]
                  exact ⟨c, .renameSame hkey, h⟩
                · rw [Request.answer_of_ok (Table.apply_rename ((hselect key).trans hkey) hne)]
                  refine ⟨_, .rename hkey hne, ?_⟩
                  exact Contents.move_eq c text hne ▸ (h.replace newKey text).delete key

/-! ### Databases -/

namespace Database

/-- A database can be read and written: its file holds its table, and it was opened in order to
change that. -/
structure Usable (db : Database) : Prop where
  sound : db.condition = .sound
  mayWrite : db.mayWrite = true

variable {db : Database}

theorem Usable.readable?_eq (h : db.Usable) : db.readable? = .ok db.table := by
  rw [readable?, h.sound]

theorem Usable.update_eq (h : db.Usable) (change : Table → Table) :
    db.update change = .ok { db with table := change db.table, changed := true } := by
  have hmay : (db.mayWrite && decide (db.condition = .sound)) = true :=
    Bool.and_eq_true_iff.mpr ⟨h.mayWrite, decide_eq_true h.sound⟩
  rw [update, h.readable?_eq]
  exact if_pos hmay

theorem Usable.delete_eq (h : db.Usable) (key : String) :
    db.delete key = if (db.table.select key).isNone then .ok db
      else db.update fun t => t.delete key := by
  rw [delete, h.readable?_eq, h.mayWrite]
  rfl

theorem Usable.rename_eq (h : db.Usable) (key newKey : String) :
    db.rename key newKey = (db.table.rename key newKey).bind fun moved =>
      if key = newKey then .ok db else db.update fun _ => moved := by
  rw [rename, h.readable?_eq]
  rfl

/-- What can be done to the table can be done to a usable database, and comes to the same. -/
theorem Usable.apply_ok (h : db.Usable) {change : Change} {table : Table}
    (ht : change.apply db.table = .ok table) :
    ∃ changed, change.apply db = .ok changed ∧ changed.Usable ∧ changed.table = table := by
  cases change with
  | set key text => exact ⟨_, h.update_eq _, ⟨h.sound, h.mayWrite⟩, Except.ok.inj ht⟩
  | delete key =>
      have htable : db.table.delete key = table := Except.ok.inj ht
      cases hkey : db.table.select key with
      | none =>
          -- The table that comes of it is the old one, which the database keeps.
          rw [Table.delete_eq_self hkey] at htable
          refine ⟨db, (h.delete_eq key).trans ?_, h, htable⟩
          rw [hkey]
          rfl
      | some text =>
          refine ⟨{ db with table := db.table.delete key, changed := true },
            (h.delete_eq key).trans ?_, ⟨h.sound, h.mayWrite⟩, htable⟩
          rw [hkey]
          exact h.update_eq fun t => t.delete key
  | rename key newKey =>
      change db.table.rename key newKey = .ok table at ht
      by_cases hne : key = newKey
      · subst hne
        rw [Table.rename_eq_move] at ht
        -- The key is moved to itself: the table allows it and stays as it is.
        obtain ⟨text, _, htable⟩ := Table.move_eq_ok ht
        refine ⟨db, (h.rename_eq key key).trans ?_, h, htable.trans (if_pos rfl) |>.symm⟩
        rw [Table.rename_eq_move, ht]
        exact if_pos rfl
      · refine ⟨{ db with table := table, changed := true }, (h.rename_eq key newKey).trans ?_,
          ⟨h.sound, h.mayWrite⟩, rfl⟩
        rw [ht]
        exact (if_neg hne).trans (h.update_eq fun _ => table)

/-- What the table refuses, the database refuses. -/
theorem Usable.apply_error (h : db.Usable) {change : Change} {fault : StoreFault}
    (ht : change.apply db.table = .error fault) : change.apply db = .error fault := by
  cases change with
  | set key text => exact nomatch ht
  | delete key => exact nomatch ht
  | rename key newKey =>
      change db.table.rename key newKey = .error fault at ht
      refine (h.rename_eq key newKey).trans ?_
      rw [ht]
      rfl

/-- A usable database answers as its table, and goes on to be usable. -/
theorem Usable.answer_eq (h : db.Usable) (request : Request) :
    (request.answer db).1 = (request.answer db.table).1 ∧ (request.answer db).2.Usable ∧
      (request.answer db).2.table = (request.answer db.table).2 := by
  -- A database that can be used is read and written through its table.
  have hread := h.readable?_eq
  cases request with
  | get key =>
      refine ⟨?_, h, rfl⟩
      change Response.of _ (db.readable?.map _) = _
      rw [hread]
      rfl
  | keys =>
      refine ⟨?_, h, rfl⟩
      change Response.of _ (db.readable?.bind _) = _
      rw [hread]
      rfl
  | entries =>
      refine ⟨?_, h, rfl⟩
      change Response.of _ (db.readable?.bind _) = _
      rw [hread]
      rfl
  | change change =>
      cases ht : change.apply db.table with
      | ok table =>
          obtain ⟨changed, hchanged, husable, htable⟩ := h.apply_ok ht
          rw [Request.answer_of_ok hchanged, Request.answer_of_ok ht]
          exact ⟨rfl, husable, htable⟩
      | error fault =>
          rw [Request.answer_of_error (h.apply_error ht), Request.answer_of_error ht]
          exact ⟨rfl, h, rfl⟩

/-- A database whose file can be read has the contents of its table, also if it was not opened in
order to change that. -/
theorem reads {c : Contents} {table : Table} (h : db.readable? = .ok table)
    (htable : table.Holds c) : Reads db c := by
  -- What is read of the database is read of its table.
  have hreads : Reads table c := ContentStore.reads (σ := Table) htable
  refine ⟨fun key => ?_, ?_, ?_⟩
  · change db.readable?.map _ = _
    rw [h]
    exact hreads.get?_eq key
  · change ∃ keys, db.readable?.bind KeyStore.keys = .ok keys ∧ _
    rw [h]
    exact hreads.keys_eq
  · change ∃ entries, db.readable?.bind KeyStore.entries = .ok entries ∧ _
    rw [h]
    exact hreads.entries_eq

end Database

instance : ContentStore Database where
  Holds db c := db.Usable ∧ db.table.Holds c
  holds_answer {db c} request h := by
    obtain ⟨husable, htable⟩ := h
    obtain ⟨hresponse, husable', htable'⟩ := husable.answer_eq request
    obtain ⟨c', hanswers, hholds⟩ := ContentStore.holds_answer (σ := Table) request htable
    exact ⟨c', hresponse ▸ hanswers, husable', htable' ▸ hholds⟩

end EnvProfiles
