import EnvProfiles.Toml.Value

/-!
# Growing Tables

How the tables of a TOML text come about. A table may be opened by a header, by
a header for a table within it, or by a key with dots; each way limits in which
ways it may be added to later. What a value says, a later line cannot change.

## Main definitions

* `Item`: What stands under a key while the text is being read.
* `Item.set?`: Puts a value under a key.
* `Item.openTable?`: Opens a table by a header.
* `Item.openElement?`: Opens a table that is an element of an array.
* `Item.toToml`: The value that has come about.
-/

namespace EnvProfiles.TomlReader

/-- How a table came about. -/
inductive Origin where
  /-- By a header of its own. -/
  | header
  /-- By the header of a table within it. -/
  | implied
  /-- By a key with dots. -/
  | dotted
deriving DecidableEq, Repr

/-- What stands under a key while a text is being read. -/
inductive Item where
  | value (v : Toml)
  | table (origin : Origin) (entries : List (String × Item))
  /-- Tables that headers add to an array, the last one first. -/
  | elements (tables : List (List (String × Item)))

namespace Item

/-- The keys of a table with what stands under them. -/
abbrev Entries := List (String × Item)

/-- Replaces what stands under a key, or adds the key at the end. -/
def put (key : String) (item : Item) : Entries → Entries
  | [] => [(key, item)]
  | e :: r => if e.1 == key then (key, item) :: r else e :: put key item r

/-- Changes the table under a key of a header. -/
def below? (key : String) (change : Entries → Option Entries) (entries : Entries) :
    Option Entries :=
  match entries.lookup key with
  | none => (change []).map fun new => put key (.table .implied new) entries
  | some (.table origin inner) =>
    (change inner).map fun new => put key (.table origin new) entries
  -- A header that leads through an array goes on in its last table.
  | some (.elements (last :: tables)) =>
    (change last).map fun new => put key (.elements (new :: tables)) entries
  | some _ => none

/-- Changes the table that the keys of a header lead to. -/
def atHeader? : List String → (Entries → Option Entries) → Entries → Option Entries
  | [], change, entries => change entries
  | key :: keys, change, entries => below? key (atHeader? keys change) entries

/-- Opens a table by a header that ends in a key. Only a table that was implied may be there. -/
def openLast? (key : String) (entries : Entries) : Option Entries :=
  match entries.lookup key with
  | none => some (put key (.table .header []) entries)
  | some (.table .implied inner) => some (put key (.table .header inner) entries)
  | some _ => none

/-- Opens a table by a header. -/
def openTable? (path : List String) (entries : Entries) : Option Entries :=
  match path.reverse with
  | [] => none
  | key :: above => atHeader? above.reverse (openLast? key) entries

/-- Adds an empty table to the array under a key. -/
def addElement? (key : String) (entries : Entries) : Option Entries :=
  match entries.lookup key with
  | none => some (put key (.elements [[]]) entries)
  | some (.elements tables) => some (put key (.elements ([] :: tables)) entries)
  | some _ => none

/-- Opens a table that is an element of an array. -/
def openElement? (path : List String) (entries : Entries) : Option Entries :=
  match path.reverse with
  | [] => none
  | key :: above => atHeader? above.reverse (addElement? key) entries

/-- Puts a value under a key with dots, which may pass only through tables without a header. -/
def set? (v : Toml) : List String → Entries → Option Entries
  | [], _ => none
  | [key], entries =>
    if (entries.lookup key).isSome then none else some (put key (.value v) entries)
  | key :: keys, entries =>
    match entries.lookup key with
    | none => (set? v keys []).map fun new => put key (.table .dotted new) entries
    -- What a header has opened is closed to keys with dots.
    | some (.table .header _) => none
    -- A table that was implied now comes from the key, and no header opens it later.
    | some (.table _ inner) =>
      (set? v keys inner).map fun new => put key (.table .dotted new) entries
    | some _ => none

mutual

/-- The value that has come about under a key. -/
def toToml : Item → Toml
  | value v => v
  | table _ entries => .table (toTable entries)
  | elements tables => .array (toElements tables).reverse

/-- The table that has come about. -/
def toTable : List (String × Item) → TomlTable
  | [] => []
  | (key, item) :: r => (key, toToml item) :: toTable r

/-- The tables of an array. -/
def toElements : List (List (String × Item)) → List Toml
  | [] => []
  | entries :: r => .table (toTable entries) :: toElements r

end

end Item

end EnvProfiles.TomlReader
