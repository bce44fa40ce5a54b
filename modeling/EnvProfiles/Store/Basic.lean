import EnvProfiles.Fault

/-!
# Stores

A store keeps a text under each of its keys. What a command does with a store
does not depend on how the store keeps them, so the operations are a class. Any
of them can be refused, since a store may lie in a file that others change.

Whatever a store is made of, it holds finitely many texts. That is part of the
class, because it is what ends a search that goes from one text to the next.

## Main definitions

* `KeyStore`: The operations of a store.
-/

namespace EnvProfiles

/-- The operations of a store. -/
class KeyStore (σ : Type) where
  /-- The text under a key. -/
  get? : σ → String → Except StoreFault (Option String)
  /-- Puts a text under a key, in place of the one that was there. -/
  set : σ → String → String → Except StoreFault σ
  /-- Removes a key; one that is absent stays absent. -/
  delete : σ → String → Except StoreFault σ
  /-- Moves the text of a key to another key, in place of the one that was there. -/
  rename : σ → String → String → Except StoreFault σ
  /-- The keys, ascending. -/
  keys : σ → Except StoreFault (List String)
  /-- The keys with their texts, in ascending order of the keys. -/
  entries : σ → Except StoreFault (List (String × String))
  /-- Only finitely many keys have a text. -/
  finite : ∀ store, ∃ known : List String, ∀ key text, get? store key = .ok (some text) →
    key ∈ known

end EnvProfiles
