import EnvProfiles.Proofs.Stores.Independence
import EnvProfiles.Proofs.Stores.Observing

/-!
# Sessions

A store that is open while there are files around it. Between two operations it
has been looked at, and nothing waits to be written back. That is what a session
is, so each operation can begin with the store as it stands: it is carried out,
what it changed is written back, and the files are looked at again, which is
what the next operation would do first.

A store in memory has no files, and nothing becomes of it but what is done to
it. A database in a file is what the file holds. Of a kind of store nothing has
to be known here but what `OpenStore` asks for: what was written back is found
as it was, and as long as the files of a store stay as they are, the store does
as well.

## Main definitions

* `OpenStore`: A kind of store that can be open among files.
* `Session`: An open store between two operations.
* `Session.resume`: The session that goes on with what an operation leaves.

## Theorems

* `Session.resume_self`: An operation that does nothing leaves a session as it
  was.
* `Session.holds_change`: A change leads to the contents that it demands.
* `Session.resume_store`: Other files make no difference.
-/

namespace EnvProfiles

/-- A kind of store that can be open while there are files around it. -/
class OpenStore (σ : Type) [KeyStore σ] extends ContentStore σ where
  /-- Looks at the files of a store again. -/
  observe : σ → FileSystem → σ × FileSystem
  /-- Writes back what was changed in a store. -/
  commit : σ → FileSystem → σ × FileSystem
  /-- Nothing waits to be written back. -/
  Settled : σ → Prop
  /-- The places of the files that a store looks at. -/
  places : σ → List Location
  observe_again : ∀ store files,
    observe (observe store files).1 (observe store files).2 = observe store files
  /-- As long as the files of a store stay as they are, and none gets another name, it is found as
  it was. -/
  observe_same : ∀ {store files files'},
    (∀ place ∈ places store, files'.entry? place = files.entry? place) →
      (∀ a b, files'.sameFile a b = files.sameFile a b) →
      (observe store files').1 = (observe store files).1
  settled_observe : ∀ {store} files, Settled store → Settled (observe store files).1
  settled_commit : ∀ store files, Settled (commit store files).1
  commit_settled : ∀ {store} files, Settled store → commit store files = (store, files)
  /-- What was written back is found as it was. -/
  observe_commit : ∀ {store files}, observe store files = (store, files) → Settled store →
    ∀ change : Change,
      observe (commit (change.next store) files).1 (commit (change.next store) files).2 =
        commit (change.next store) files
  /-- To write back does not change what is there. -/
  holds_commit : ∀ {store c} files, Holds store c → Holds (commit store files).1 c
  /-- A store that lists no key twice has contents, or nothing can be changed in it. -/
  holds_or_frozen : ∀ {store},
    (∀ entries, KeyStore.entries store = .ok entries → (entries.map Prod.fst).Nodup) →
      (∃ c, Holds store c) ∨ ∀ change : Change, change.next store = store

/-- An open store between two operations: it has been looked at, and nothing waits to be written
back. -/
structure Session (σ : Type) [KeyStore σ] [OpenStore σ] where
  store : σ
  files : FileSystem
  observed : OpenStore.observe store files = (store, files)
  settled : OpenStore.Settled store

namespace Session

variable {σ : Type} [KeyStore σ] [OpenStore σ]

open OpenStore ContentStore

/-- The session that goes on with what an operation leaves: what was changed is written back, and
the files are looked at again. -/
def resume (store : σ) (files : FileSystem) : Session σ where
  store := (observe (commit store files).1 (commit store files).2).1
  files := (observe (commit store files).1 (commit store files).2).2
  observed := observe_again _ _
  settled := settled_observe _ (settled_commit store files)

/-- The keys with their texts, in ascending order of the keys. -/
def entries (s : Session σ) : Except StoreFault (List (String × String)) := KeyStore.entries s.store

/-- No key is listed twice. -/
def KeysDistinct (s : Session σ) : Prop :=
  ∀ entries, s.entries = .ok entries → (entries.map Prod.fst).Nodup

theorem ext_of_eq {s t : Session σ} (hstore : s.store = t.store) (hfiles : s.files = t.files) :
    s = t := by
  obtain ⟨store, files, _, _⟩ := s
  obtain ⟨store', files', _, _⟩ := t
  obtain rfl : store = store' := hstore
  obtain rfl : files = files' := hfiles
  rfl

variable (s : Session σ)

/-- An operation that does nothing leaves a session as it was. -/
theorem resume_self : resume s.store s.files = s := by
  -- Nothing waits to be written back, and nothing new is found.
  have hcommit := commit_settled s.files s.settled
  refine ext_of_eq ?_ ?_
  · change (observe (commit s.store s.files).1 (commit s.store s.files).2).1 = s.store
    rw [hcommit, s.observed]
  · change (observe (commit s.store s.files).1 (commit s.store s.files).2).2 = s.files
    rw [hcommit, s.observed]

/-- Files that are not those of the store make no difference to it. -/
theorem resume_store {files : FileSystem}
    (h : ∀ place ∈ places s.store, files.entry? place = s.files.entry? place)
    (hnames : ∀ a b, files.sameFile a b = s.files.sameFile a b) :
    (resume s.store files).store = s.store := by
  change (observe (commit s.store files).1 (commit s.store files).2).1 = s.store
  rw [commit_settled files s.settled]
  exact (observe_same h hnames).trans (congrArg Prod.fst s.observed)

/-- The session after a change, which may be refused. -/
def change (change : Change) : Session σ := resume (change.next s.store) s.files

/-- A change leads to the contents that it demands, and is answered as these demand. -/
theorem holds_change {c : Contents} (h : Holds s.store c) (change : Change) :
    ∃ c', c.Answers (.change change) ((Request.change change).answer s.store).1 c' ∧
      Holds (s.change change).store c' := by
  obtain ⟨c', hanswers, hholds⟩ := holds_answer (.change change) h
  refine ⟨c', hanswers, ?_⟩
  change Holds (observe (commit _ _).1 (commit _ _).2).1 c'
  rw [observe_commit s.observed s.settled change]
  exact holds_commit s.files hholds

theorem change_of_frozen (h : ∀ change : Change, change.next s.store = s.store)
    (change : Change) : s.change change = s := by
  rw [Session.change, h]
  exact s.resume_self

/-- Sessions whose stores have the same contents list the same. -/
theorem entries_eq_of_holds {t : Session σ} {c : Contents} (hs : Holds s.store c)
    (ht : Holds t.store c) : s.entries = t.entries := by
  obtain ⟨l, hl, hlists⟩ := ContentStore.entries_eq hs
  obtain ⟨m, hm, hlists'⟩ := ContentStore.entries_eq ht
  rw [entries, entries, hl, hm, hlists.unique hlists']

end Session

/-! ### The kinds of store -/

instance : OpenStore MemoryStore where
  observe store files := (store, files)
  commit store files := (store, files)
  Settled _ := True
  places _ := []
  observe_again _ _ := rfl
  observe_same _ _ := rfl
  settled_observe _ h := h
  settled_commit _ _ := trivial
  commit_settled _ _ := rfl
  observe_commit _ _ _ := rfl
  holds_commit _ h := h
  holds_or_frozen {store} _ := .inl ⟨store.dict.get?, rfl⟩

/-- A usable database that lists no key twice has contents. -/
theorem Database.Usable.holds {db : Database} (h : db.Usable)
    (hdistinct : ∀ entries, KeyStore.entries db = .ok entries → (entries.map Prod.fst).Nodup) :
    ContentStore.Holds db db.table.select := by
  have hentries : KeyStore.entries db = .ok db.table.ordered := by
    change db.readable?.bind KeyStore.entries = _
    rw [h.readable?_eq]
    rfl
  -- The entries are the rows in another order.
  have hrows := hdistinct _ hentries
  exact ⟨h, ((List.mergeSort_perm _ _).map Prod.fst).nodup_iff.mp hrows, rfl⟩

instance : OpenStore Database where
  observe := Database.observe
  commit := Database.commit
  Settled db := db.changed = false
  places := Database.ownPlaces
  observe_again _ _ := Database.observe_observe rfl
  observe_same := Database.observe_congr
  settled_observe {db} files h := (db.observe_changed files).trans h
  settled_commit db files := congrArg Database.changed (db.commit_fst files)
  commit_settled files h := Database.commit_unchanged h files
  observe_commit := Database.observe_commit
  holds_commit {db c} files h := by
    rw [db.commit_fst files]
    exact ⟨⟨h.1.sound, h.1.mayWrite⟩, h.2⟩
  holds_or_frozen {db} h := by
    by_cases husable : db.Usable
    · exact .inl ⟨_, husable.holds h⟩
    · -- A database that cannot be used refuses every change.
      exact .inr fun change => (db.next_cases change).resolve_right fun hc => husable hc.1

end EnvProfiles
