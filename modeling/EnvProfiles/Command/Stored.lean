import EnvProfiles.Store.Basic

/-!
# Commands on Stored Texts

The commands that show a stored text, list the keys, and remove and rename a
key.

## Main definitions

* `Command.print`: The text of a key, ending in a line feed.
* `Command.listKeys`: The keys, one to a line.
* `Command.remove`, `Command.rename`: Change the store.
-/

namespace EnvProfiles

namespace Command

variable {σ : Type} [KeyStore σ]

/-- What is printed for the text of a key: the text, with a line feed unless it ends in one. -/
def print (store : σ) (key : String) : Except Fault String :=
  match KeyStore.get? store key with
  | .error fault => .error (.store fault)
  | .ok none => .error (.store (.notFound key))
  | .ok (some text) => .ok (if text.toList.getLast? == some '\n' then text else text ++ "\n")

/-- What is printed for the keys: each on a line of its own. -/
def listKeys (store : σ) : Except Fault String :=
  match KeyStore.keys store with
  | .error fault => .error (.store fault)
  | .ok keys => .ok (String.join (keys.map (· ++ "\n")))

/-- Removes a key. -/
def remove (store : σ) (key : String) : Except Fault σ :=
  (KeyStore.delete store key).mapError .store

/-- Moves the text of a key to another key. -/
def rename (store : σ) (key newKey : String) : Except Fault σ :=
  (KeyStore.rename store key newKey).mapError .store

end Command

end EnvProfiles
