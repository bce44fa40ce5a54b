import EnvProfiles.Proofs.Changes
import EnvProfiles.Proofs.Listing

/-!
# Contents of a Store

What a store is, seen from outside: which text is under which key. How a store
keeps its texts does not show in its answers. Whatever is asked of it, and
whatever it is told to do, it answers as its contents demand, and afterwards it
has the contents that the request leads to.

`Contents.Answers` says what contents demand, with a clause for each case that a
request can meet. A kind of store has contents in this sense if it comes with a
relation between stores and contents that every request keeps (`ContentStore`).
What is proved of such stores speaks of nothing but contents, so it is true of
every kind of store alike.

## Main definitions

* `Contents`: Which text is under which key.
* `Request`, `Response`: What can be asked of a store, and what is answered.
* `Contents.Answers`: What contents demand to be answered.
* `Reads`: A store can be read, and has contents.
* `ContentStore`: Stores that have contents, and answer as these demand.

## Theorems

* `Contents.Answers.unique`: Contents leave one answer to a request.
* `ContentStore.get?_eq`, `ContentStore.entries_eq`, `ContentStore.set_eq`,
  `ContentStore.rename_eq`: What the operations of such a store come to.
-/

namespace EnvProfiles

/-- Which text is under which key, where there is one. -/
abbrev Contents := String → Option String

namespace Contents

/-- There is no text at all. -/
def empty : Contents := fun _ => none

/-- A text is put under a key, in place of the one that was there. -/
def set (c : Contents) (key text : String) : Contents :=
  fun k => if k = key then some text else c k

/-- There is no text under a key any more. -/
def delete (c : Contents) (key : String) : Contents := fun k => if k = key then none else c k

@[simp] theorem set_apply (c : Contents) (key text k : String) :
    c.set key text k = if k = key then some text else c k := rfl

@[simp] theorem delete_apply (c : Contents) (key k : String) :
    c.delete key k = if k = key then none else c k := rfl

/-- The keys that have a text, each of them once and in ascending order, with their texts. -/
structure Lists (c : Contents) (entries : List (String × String)) : Prop where
  ascending : entries.Pairwise fun a b => a.1 < b.1
  mem_iff : ∀ key text, (key, text) ∈ entries ↔ c key = some text

/-- The keys that have a text, each of them once and in ascending order. -/
structure ListsKeys (c : Contents) (keys : List String) : Prop where
  ascending : keys.Pairwise (· < ·)
  mem_iff : ∀ key, key ∈ keys ↔ ∃ text, c key = some text

theorem Lists.unique {c : Contents} {l m : List (String × String)} (hl : c.Lists l)
    (hm : c.Lists m) : l = m :=
  eq_of_ascending Prod.fst hl.ascending hm.ascending fun (key, text) =>
    (hl.mem_iff key text).trans (hm.mem_iff key text).symm

theorem ListsKeys.unique {c : Contents} {l m : List String} (hl : c.ListsKeys l)
    (hm : c.ListsKeys m) : l = m :=
  eq_of_ascending id hl.ascending hm.ascending fun key =>
    (hl.mem_iff key).trans (hm.mem_iff key).symm

theorem Lists.keys_nodup {c : Contents} {l : List (String × String)} (h : c.Lists l) :
    (l.map Prod.fst).Nodup :=
  List.pairwise_map.mpr (h.ascending.imp String.ne_of_lt)

theorem Lists.keys {c : Contents} {l : List (String × String)} (h : c.Lists l) :
    c.ListsKeys (l.map Prod.fst) where
  ascending := List.pairwise_map.mpr h.ascending
  mem_iff key := by
    rw [List.mem_map]
    constructor
    · rintro ⟨⟨key, text⟩, hmem, rfl⟩
      exact ⟨text, (h.mem_iff key text).mp hmem⟩
    · rintro ⟨text, htext⟩
      exact ⟨(key, text), (h.mem_iff key text).mpr htext, rfl⟩

end Contents

/-! ### Requests -/

/-- What can be asked of a store, or done to it. -/
inductive Request where
  | get (key : String)
  | keys
  | entries
  | change (change : Change)
deriving DecidableEq, Repr

/-- What a store answers. -/
inductive Response where
  | text (found : Option String)
  | keys (keys : List String)
  | entries (entries : List (String × String))
  | done
  | refused (fault : StoreFault)
deriving DecidableEq, Repr

/-- The answer that an outcome gives. -/
def Response.of {α : Type} (answer : α → Response) : Except StoreFault α → Response
  | .ok found => answer found
  | .error fault => .refused fault

/-- The answer of a store to a request, and the store after it. -/
def Request.answer {σ : Type} [KeyStore σ] (store : σ) : Request → Response × σ
  | get key => (.of .text (KeyStore.get? store key), store)
  | keys => (.of .keys (KeyStore.keys store), store)
  | entries => (.of .entries (KeyStore.entries store), store)
  | change c => (.of (fun _ => .done) (c.apply store), c.next store)

section Answer

variable {σ : Type} [KeyStore σ] {store : σ} {change : Change}

theorem Request.answer_of_ok {changed : σ} (h : change.apply store = .ok changed) :
    (Request.change change).answer store = (.done, changed) := by
  rw [answer, Change.next, h]
  rfl

theorem Request.answer_of_error {fault : StoreFault} (h : change.apply store = .error fault) :
    (Request.change change).answer store = (.refused fault, store) := by
  rw [answer, Change.next, h]
  rfl

end Answer

/-- What contents demand to be answered to a request, and the contents after it. -/
inductive Contents.Answers : Contents → Request → Response → Contents → Prop
  /-- The text of a key is the one that was put there last. -/
  | get {c : Contents} (key : String) : Answers c (.get key) (.text (c key)) c
  | keys {c : Contents} {keys : List String} : c.ListsKeys keys → Answers c .keys (.keys keys) c
  | entries {c : Contents} {entries : List (String × String)} :
    c.Lists entries → Answers c .entries (.entries entries) c
  | set {c : Contents} (key text : String) :
    Answers c (.change (.set key text)) .done (c.set key text)
  | delete {c : Contents} {key text : String} :
    c key = some text → Answers c (.change (.delete key)) .done (c.delete key)
  /-- To delete what is absent changes nothing. -/
  | deleteAbsent {c : Contents} {key : String} :
    c key = none → Answers c (.change (.delete key)) .done c
  /-- What is absent cannot be renamed, and nothing is changed. -/
  | renameAbsent {c : Contents} {key : String} (newKey : String) : c key = none →
    Answers c (.change (.rename key newKey)) (.refused (.notFound key)) c
  /-- To rename a key to itself changes nothing. -/
  | renameSame {c : Contents} {key text : String} :
    c key = some text → Answers c (.change (.rename key key)) .done c
  /-- The text is moved to another key, in place of the one that was there. -/
  | rename {c : Contents} {key newKey text : String} : c key = some text → newKey ≠ key →
    Answers c (.change (.rename key newKey)) .done ((c.delete key).set newKey text)

/-- Contents leave one answer to a request, and one thing for it to do. -/
theorem Contents.Answers.unique {c c' c'' : Contents} {request : Request}
    {response response' : Response} (h : c.Answers request response c')
    (h' : c.Answers request response' c'') : response = response' ∧ c' = c'' := by
  cases h with
  | get key => cases h'; exact ⟨rfl, rfl⟩
  | keys hkeys => cases h' with | keys hkeys' => exact ⟨congrArg _ (hkeys.unique hkeys'), rfl⟩
  | entries hlists =>
      cases h' with | entries hlists' => exact ⟨congrArg _ (hlists.unique hlists'), rfl⟩
  | set key text => cases h'; exact ⟨rfl, rfl⟩
  -- A key is there or it is not, and this settles which rule applies.
  | delete htext =>
      cases h' with
      | delete => exact ⟨rfl, rfl⟩
      | deleteAbsent habsent => exact nomatch htext.symm.trans habsent
  | deleteAbsent habsent =>
      cases h' with
      | delete htext => exact nomatch htext.symm.trans habsent
      | deleteAbsent => exact ⟨rfl, rfl⟩
  | renameAbsent newKey habsent =>
      cases h' with
      | renameAbsent => exact ⟨rfl, rfl⟩
      | renameSame htext => exact nomatch htext.symm.trans habsent
      | rename htext => exact nomatch htext.symm.trans habsent
  | renameSame htext =>
      cases h' with
      | renameAbsent _ habsent => exact nomatch htext.symm.trans habsent
      | renameSame => exact ⟨rfl, rfl⟩
      | rename _ hne => exact absurd rfl hne
  | rename htext hne =>
      cases h' with
      | renameAbsent _ habsent => exact nomatch htext.symm.trans habsent
      | renameSame => exact absurd rfl hne
      | rename htext' =>
          rw [Option.some.inj (htext.symm.trans htext')]
          exact ⟨rfl, rfl⟩

/-- A store can be read, and has contents. Whether it can be changed is another question. -/
structure Reads {σ : Type} [KeyStore σ] (store : σ) (c : Contents) : Prop where
  get?_eq : ∀ key, KeyStore.get? store key = .ok (c key)
  keys_eq : ∃ keys, KeyStore.keys store = .ok keys ∧ c.ListsKeys keys
  entries_eq : ∃ entries, KeyStore.entries store = .ok entries ∧ c.Lists entries

/-- A kind of store that has contents: every request is answered as they demand. -/
class ContentStore (σ : Type) [KeyStore σ] where
  /-- A store has contents, and can be read and changed. -/
  Holds : σ → Contents → Prop
  holds_answer : ∀ {store : σ} {c : Contents} (request : Request), Holds store c →
    ∃ c', c.Answers request (request.answer store).1 c' ∧ Holds (request.answer store).2 c'

namespace ContentStore

variable {σ : Type} [KeyStore σ] [ContentStore σ] {store : σ} {c : Contents}

theorem get?_eq (h : Holds store c) (key : String) : KeyStore.get? store key = .ok (c key) := by
  obtain ⟨c', hanswers, _⟩ := holds_answer (.get key) h
  -- The answer that contents demand is no refusal.
  cases hget : KeyStore.get? store key with
  | error fault =>
      rw [Request.answer, hget] at hanswers
      exact nomatch hanswers
  | ok found =>
      rw [Request.answer, hget] at hanswers
      cases hanswers
      rfl

theorem keys_eq (h : Holds store c) :
    ∃ keys, KeyStore.keys store = .ok keys ∧ c.ListsKeys keys := by
  obtain ⟨c', hanswers, _⟩ := holds_answer .keys h
  cases hkeys : KeyStore.keys store with
  | error fault =>
      rw [Request.answer, hkeys] at hanswers
      exact nomatch hanswers
  | ok keys =>
      rw [Request.answer, hkeys] at hanswers
      cases hanswers with
      | keys hlists => exact ⟨keys, rfl, hlists⟩

/-- A store lists its contents. -/
theorem entries_eq (h : Holds store c) :
    ∃ entries, KeyStore.entries store = .ok entries ∧ c.Lists entries := by
  obtain ⟨c', hanswers, _⟩ := holds_answer .entries h
  cases hentries : KeyStore.entries store with
  | error fault =>
      rw [Request.answer, hentries] at hanswers
      exact nomatch hanswers
  | ok entries =>
      rw [Request.answer, hentries] at hanswers
      cases hanswers with
      | entries hlists => exact ⟨entries, rfl, hlists⟩

theorem reads (h : Holds store c) : Reads store c := ⟨get?_eq h, keys_eq h, entries_eq h⟩

/-- A text can be put under any key. -/
theorem set_eq (h : Holds store c) (key text : String) :
    ∃ changed, KeyStore.set store key text = .ok changed ∧ Holds changed (c.set key text) := by
  obtain ⟨c', hanswers, hholds⟩ := holds_answer (.change (.set key text)) h
  cases hset : KeyStore.set store key text with
  | error fault =>
      have happly : (Change.set key text).apply store = .error fault := hset
      rw [Request.answer_of_error happly] at hanswers
      exact nomatch hanswers
  | ok changed =>
      have happly : (Change.set key text).apply store = .ok changed := hset
      rw [Request.answer_of_ok happly] at hanswers hholds
      cases hanswers
      exact ⟨changed, rfl, hholds⟩

/-- A text that is there can be moved to any other key. -/
theorem rename_eq (h : Holds store c) {key newKey text : String} (hkey : c key = some text)
    (hne : newKey ≠ key) :
    ∃ renamed, KeyStore.rename store key newKey = .ok renamed ∧
      Holds renamed ((c.delete key).set newKey text) := by
  obtain ⟨c', hanswers, hholds⟩ := holds_answer (.change (.rename key newKey)) h
  cases hrename : KeyStore.rename store key newKey with
  | error fault =>
      have happly : (Change.rename key newKey).apply store = .error fault := hrename
      rw [Request.answer_of_error happly] at hanswers
      cases hanswers with
      | renameAbsent _ habsent => exact nomatch hkey.symm.trans habsent
  | ok renamed =>
      have happly : (Change.rename key newKey).apply store = .ok renamed := hrename
      rw [Request.answer_of_ok happly] at hanswers hholds
      cases hanswers with
      | renameSame => exact absurd rfl hne
      | rename hfound =>
          -- The text that was moved is the one that is known to be there.
          rw [Option.some.inj (hfound.symm.trans hkey)] at hholds
          exact ⟨renamed, rfl, hholds⟩

end ContentStore

end EnvProfiles
