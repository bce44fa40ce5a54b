import EnvProfiles.Proofs.Stores.Observing

/-!
# Stores That Have Taken a Text

A store that can be read need not be one that can be changed: a database may
have been opened for reading only. Which of the two it is shows with the first
text that is put there. If the store takes it, it takes every other one, and
from then on it has contents that can be changed at will. If it does not, it
stays as it is.

So a statement about a command that puts texts into a store need not assume
that the store can be changed. It is enough that the store can be read, and that
the command succeeds.

## Main definitions

* `SteadyStore`: A kind of store that goes on to take texts.

## Theorems

* `Reads.unique`: A store has one contents only.
* `Table.holds_of_reads`: A table that can be read has contents.
-/

namespace EnvProfiles

/-- A store has one contents only. -/
theorem Reads.unique {σ : Type} [KeyStore σ] {store : σ} {c c' : Contents} (h : Reads store c)
    (h' : Reads store c') : c = c' :=
  funext fun key => Except.ok.inj ((h.get?_eq key).symm.trans (h'.get?_eq key))

/-- A kind of store that goes on to take texts: one that could be read and has taken a text can be
changed. -/
class SteadyStore (σ : Type) [KeyStore σ] [ContentStore σ] : Prop where
  holds_of_set : ∀ {store changed : σ} {c : Contents} {key text : String}, Reads store c →
    KeyStore.set store key text = .ok changed → ContentStore.Holds changed (c.set key text)

/-- If every store that can be read can be changed as well, then a store that has taken a text has
the contents that this demands. -/
theorem ContentStore.holds_of_set {σ : Type} [KeyStore σ] [ContentStore σ] {store changed : σ}
    {c : Contents} {key text : String} (h : Holds store c)
    (hset : KeyStore.set store key text = .ok changed) : Holds changed (c.set key text) := by
  obtain ⟨other, hother, hholds⟩ := set_eq h key text
  cases hset.symm.trans hother
  exact hholds

instance : SteadyStore MemoryStore where
  holds_of_set hreads hset :=
    ContentStore.holds_of_set (σ := MemoryStore)
      (funext fun key => Except.ok.inj (hreads.get?_eq key)) hset

/-- A table that can be read has contents: what it lists has no key twice. -/
theorem Table.holds_of_reads {t : Table} {c : Contents} (h : Reads t c) : t.Holds c where
  distinct := by
    obtain ⟨entries, hentries, hlists⟩ := h.entries_eq
    have hordered : t.ordered = entries := Except.ok.inj hentries
    have hnodup : (t.ordered.map Prod.fst).Nodup :=
      List.pairwise_map.mpr (hordered ▸ hlists.ascending.imp fun hlt => String.ne_of_lt hlt)
    exact ((List.mergeSort_perm t.rows _).map Prod.fst).nodup_iff.mp hnodup
  select := funext fun key => Except.ok.inj (h.get?_eq key)

instance : SteadyStore Table where
  holds_of_set hreads hset :=
    ContentStore.holds_of_set (σ := Table) (Table.holds_of_reads hreads) hset

instance : SteadyStore Database where
  holds_of_set {db changed c key text} hreads hset := by
    -- A database takes no text unless it is usable, and then it is read through its table.
    obtain ⟨husable, _⟩ := Database.update_cases hset
    have htable : Reads db.table c := by
      refine ⟨fun k => ?_, ?_, ?_⟩
      · have hget := hreads.get?_eq k
        rw [Database.get?_eq, husable.readable?_eq] at hget
        exact hget
      · obtain ⟨keys, hkeys, hlists⟩ := hreads.keys_eq
        change db.readable?.bind KeyStore.keys = .ok keys at hkeys
        rw [husable.readable?_eq] at hkeys
        exact ⟨keys, hkeys, hlists⟩
      · obtain ⟨entries, hentries, hlists⟩ := hreads.entries_eq
        change db.readable?.bind KeyStore.entries = .ok entries at hentries
        rw [husable.readable?_eq] at hentries
        exact ⟨entries, hentries, hlists⟩
    exact ContentStore.holds_of_set (σ := Database) ⟨husable, Table.holds_of_reads htable⟩ hset

end EnvProfiles
