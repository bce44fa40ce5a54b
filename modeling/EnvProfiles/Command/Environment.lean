import EnvProfiles.Profile.Resolver
import EnvProfiles.Store.Database

/-!
# Environments of Stored Profiles

The variables that the profiles of a store export, for any kind of store, and
for the database of a path.

## Main definitions

* `Command.environment`: The variables that profiles export together.
* `Command.resolution`: What one profile comes to.
* `loadEnvironment`: The variables that the profiles of a database export.
* `reloadEnvironment`: The same for a database that is open already.
-/

namespace EnvProfiles

namespace Command

/-- The variables that profiles export together; those of later profiles win. -/
def environment {σ : Type} [KeyStore σ] (store : σ) (keys : List String) : Except Fault Dict :=
  resolveProfiles store keys

/-- What one profile comes to. -/
def resolution {σ : Type} [KeyStore σ] (store : σ) (key : String) : Except Fault Resolution :=
  resolveProfile store key

end Command

/-- The variables that the profiles of a database export which has been opened for this. -/
def Database.environment (opened : Except Fault Database × FileSystem) (keys : List String) :
    Except Fault Dict × FileSystem :=
  match opened with
  | (.error fault, fs) => (.error fault, fs)
  | (.ok db, fs) => (Command.environment db keys, db.close fs)

/-- The variables that the profiles of the database of a path export. -/
def loadEnvironment (fs : FileSystem) (path : String) (keys : List String) :
    Except Fault Dict × FileSystem :=
  Database.environment (Database.openAt fs path) keys

/-- The variables that the profiles of an open database export, which is opened once more. -/
def reloadEnvironment (db : Database) (fs : FileSystem) (keys : List String) :
    Except Fault Dict × FileSystem :=
  -- The files beside the database stay as long as it is open.
  if db.logging then (Command.environment db keys, fs)
  else Database.environment (db.openAgain fs) keys

end EnvProfiles
