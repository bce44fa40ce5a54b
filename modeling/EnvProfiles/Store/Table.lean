import EnvProfiles.Dict
import EnvProfiles.Store.Basic

/-!
# Stores in a Table

A store that is a table with a row for every key. Rows are kept in the order in
which they were written. A row is replaced by taking out the one with its key
and adding it at the end, and what is read is put into order when it is read.

A key is renamed in one transaction: the row under the new key is written, the
old one is deleted, and if there is no row to begin with, the transaction is
given up and the table is as it was.

## Main definitions

* `Table`: Rows of a key and a text.
* `Table.select`, `Table.replace`, `Table.delete`: What is done with rows.
* `Table.transaction`: Changes that count only if none of them fails.
-/

namespace EnvProfiles

/-- A table with a row for every key. -/
structure Table where
  rows : List (String × String)
deriving DecidableEq, Repr

namespace Table

/-- The table without a row. -/
def empty : Table := ⟨[]⟩

/-- The text in the row of a key. -/
def select (t : Table) (key : String) : Option String := t.rows.lookup key

/-- Takes out the row of a key. -/
def delete (t : Table) (key : String) : Table := ⟨t.rows.filter fun row => row.1 != key⟩

/-- Writes a row, in place of the row of its key. -/
def replace (t : Table) (key value : String) : Table :=
  ⟨(t.delete key).rows ++ [(key, value)]⟩

/-- The rows in ascending order of their keys. -/
def ordered (t : Table) : List (String × String) := t.rows.mergeSort fun a b => a.1 ≤ b.1

/-- Changes a table in steps; if one of them fails, none of them counts. -/
def transaction (t : Table) (changes : Table → Except StoreFault Table) :
    Except StoreFault Unit × Table :=
  match changes t with
  | .ok changed => (.ok (), changed)
  | .error fault => (.error fault, t)

/-- Moves the text of a row to another key. -/
def move (key newKey : String) (t : Table) : Except StoreFault Table :=
  match t.select key with
  | none => .error (.notFound key)
  | some value =>
    .ok (if key = newKey then t else (t.replace newKey value).delete key)

/-- Moves the text of a row to another key, in one transaction. -/
def rename (t : Table) (key newKey : String) : Except StoreFault Table :=
  match t.transaction (move key newKey) with
  | (.ok (), t) => .ok t
  | (.error fault, _) => .error fault

/-- What is selected stands in a row. -/
theorem mem_rows_of_select {t : Table} {key value : String} (h : t.select key = some value) :
    (key, value) ∈ t.rows :=
  Dict.mem_of_lookup h

instance : KeyStore Table where
  get? t key := .ok (t.select key)
  set t key value := .ok (t.replace key value)
  delete t key := .ok (t.delete key)
  rename := rename
  keys t := .ok (t.ordered.map (·.1))
  entries t := .ok t.ordered
  finite t := ⟨t.rows.map (·.1), fun _ _ h =>
    List.mem_map_of_mem (mem_rows_of_select (Except.ok.inj h))⟩

end Table

end EnvProfiles
