import EnvProfiles.Dict
import EnvProfiles.Store.Basic

/-!
# Stores in Memory

A store that is a dictionary and nothing else. To rename a key is to remove it
and to put its text under the new one, which leaves a key alone that is renamed
to itself.

## Main definitions

* `MemoryStore`: A dictionary as a store.
-/

namespace EnvProfiles

/-- A store that is kept in memory. -/
structure MemoryStore where
  dict : Dict
deriving DecidableEq, Repr

namespace MemoryStore

/-- The store without a key. -/
def empty : MemoryStore := ⟨.empty⟩

/-- How many keys there are. -/
def size (s : MemoryStore) : Nat := s.dict.size

/-- Whether there is no key. -/
def isEmpty (s : MemoryStore) : Bool := s.dict.isEmpty

/-- Removes a key and puts its text under another one. -/
def rename (s : MemoryStore) (key newKey : String) : Except StoreFault MemoryStore :=
  match s.dict.get? key with
  | none => .error (.notFound key)
  | some value => .ok ⟨(s.dict.erase key).insert newKey value⟩

instance : KeyStore MemoryStore where
  get? s key := .ok (s.dict.get? key)
  set s key value := .ok ⟨s.dict.insert key value⟩
  delete s key := .ok ⟨s.dict.erase key⟩
  rename := rename
  keys s := .ok s.dict.names
  entries s := .ok s.dict.toList
  finite s := ⟨s.dict.names, fun _ _ h => Dict.mem_names_of_get? (Except.ok.inj h)⟩

end MemoryStore

end EnvProfiles
