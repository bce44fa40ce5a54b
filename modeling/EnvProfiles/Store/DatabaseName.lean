import EnvProfiles.Text.Blank
import EnvProfiles.Text.Octets

/-!
# Names of Databases

A database is named by a path, or by a path with the scheme `file:` before it,
after which parameters may stand that say how the file is opened. Two names
stand for a table that is kept in memory and nowhere else.

With the scheme, octets may be given by a percent sign and two hexadecimal
digits. A null octet that is given in this way ends the part of the name in
which it stands. Parameters take effect in the order in which they are given,
and each access that they ask for must not go beyond the one before it.

## Main definitions

* `FileAccess`: How the file of a database is opened.
* `DatabaseName`: What the name of a database stands for.
* `DatabaseName.ofText`: What a name stands for.
-/

namespace EnvProfiles

/-- How programs that have opened the same file keep out of each other's way. This decides where the
index of a log is kept, if there can be one. -/
inductive Locking where
  /-- They all may use the file, and share an index beside it. -/
  | shared
  /-- One of them uses the file, and has the index to itself. -/
  | exclusive
  /-- They do not, so that there can be no log. -/
  | none
deriving DecidableEq, Repr

/-- How the file of a database is opened. -/
structure FileAccess where
  /-- Whether the file is created if there is none. -/
  create : Bool
  writable : Bool
  /-- Whether the file is held never to change, so that nothing beside it counts. -/
  immutable : Bool
  locking : Locking
  /-- A file that must be there, since a new file gets its permissions. -/
  modeOf : Option String
deriving DecidableEq, Repr

/-- Whether anything may be written to the file. -/
def FileAccess.mayWrite (a : FileAccess) : Bool := a.writable && !a.immutable

/-- What the name of a database stands for. -/
inductive DatabaseName where
  /-- A table in memory, which others may open too as long as it is open. -/
  | memory (writable shared : Bool)
  | file (path : String) (access : FileAccess)
  /-- Nothing: the name is malformed. -/
  | malformed (detail : String)
deriving DecidableEq, Repr

namespace DatabaseName

/-- The value of a hexadecimal digit of either case. -/
def hexValue? (c : Char) : Option Nat :=
  if '0' ≤ c ∧ c ≤ '9' then some (c.toNat - '0'.toNat)
  else if 'a' ≤ c ∧ c ≤ 'f' then some (c.toNat - 'a'.toNat + 10)
  else if 'A' ≤ c ∧ c ≤ 'F' then some (c.toNat - 'A'.toNat + 10)
  else none

/-- The octets of a part of a name, with those in place that are given by two digits. -/
def unescape : List Char → List Char
  | '%' :: a :: b :: r =>
    match hexValue? a, hexValue? b with
    | some x, some y => Char.ofNat (x * 16 + y) :: unescape r
    | _, _ => '%' :: unescape (a :: b :: r)
  | c :: r => octetsOf (String.singleton c) ++ unescape r
  | [] => []

/-- The text of a part of a name, which a null octet ends. -/
def partText (cs : List Char) : String := readable ((unescape cs).takeWhile (· != '\x00'))

/-- The parameters after the question mark of a name; those without a name do not count. -/
def parameters (query : List Char) : List (String × String) :=
  let pairs := (splitAt '&' query).map fun p =>
    (partText (p.takeWhile (· != '=')), partText ((p.dropWhile (· != '=')).drop 1))
  pairs.filter fun p => p.1 != ""

/-- The number that digits denote in a base. -/
def ofDigits (base : Nat) (digits : List Nat) : Nat := digits.foldl (fun n d => n * base + d) 0

/-- The hexadecimal digits with which characters begin. -/
def hexDigits (cs : List Char) : List Nat :=
  (cs.takeWhile fun c => (hexValue? c).isSome).filterMap hexValue?

/-- The number with which a value begins, in decimal digits or, after `0x`, in hexadecimal ones. -/
def leadingNumber? (cs : List Char) : Option Nat :=
  let decimal := (cs.takeWhile Char.isDigit).filterMap hexValue?
  let hex := match cs with
    | '0' :: 'x' :: r => hexDigits r
    | '0' :: 'X' :: r => hexDigits r
    | _ => []
  if decimal.isEmpty then none
  else if hex.isEmpty then some (ofDigits 10 decimal)
  else some (ofDigits 16 hex)

/-- What a parameter says that is true or false; a word that is neither says nothing. -/
def isSet (value : String) : Bool :=
  match leadingNumber? value.toList with
  | none => ["on", "yes", "true"].contains (String.ofList (value.toList.map Char.toLower))
  -- A number counts as a single octet, and not at all if it needs more than 32 bits.
  | some n => n < 2147483648 && n % 256 != 0

/-- How a name asks for its table to be opened. -/
inductive Mode where
  | readOnly
  | readWrite
  | create
  | memory
deriving DecidableEq, Repr

namespace Mode

/-- The access that a word asks for. -/
def ofText? (text : String) : Option Mode :=
  if text == "ro" then some readOnly
  else if text == "rw" then some readWrite
  else if text == "rwc" then some create
  else if text == "memory" then some memory
  else none

/-- How far an access goes. -/
def rank : Mode → Nat
  | memory => 0
  | readOnly => 1
  | readWrite => 2
  | create => 3

/-- The access after one has been asked for, which must not go beyond the one before it. A table in
memory stands in nobody's way. -/
def next? (before after : Mode) : Option Mode :=
  if before = memory || after.rank ≤ before.rank then some after else none

end Mode

/-- The places in which a table may be kept. -/
inductive Medium where
  | files (locking : Locking)
  | memory

/-- The place that a word names. -/
def Medium.ofText? (text : String) : Option Medium :=
  if text == "unix" then some (.files .shared)
  else if text == "unix-excl" then some (.files .exclusive)
  else if text == "unix-none" || text == "unix-dotfile" then some (.files .none)
  else if text == "memdb" then some .memory
  else none

/-- What parameters have asked for. -/
structure Wishes where
  mode : Mode
  shared : Bool
  /-- The name of a place. Only the last one that was given must exist. -/
  medium : String

/-- What parameters have asked for after one more of them. -/
def wish? (w : Wishes) (parameter : String × String) : Option Wishes :=
  let (name, value) := parameter
  if name == "mode" then do
    let mode ← (← Mode.ofText? value) |> w.mode.next?
    return { w with mode }
  else if name == "cache" then
    if value == "shared" then some { w with shared := true }
    else if value == "private" then some { w with shared := false }
    else none
  else if name == "vfs" then some { w with medium := value }
  else some w

/-- Whether the first parameter of a name is set. -/
def isWished (name : String) (given : List (String × String)) : Bool :=
  ((given.lookup name).map isSet).getD false

/-- What a path stands for under the parameters that are given with it. -/
def ofPath (path : String) (given : List (String × String)) : DatabaseName :=
  match given.foldlM wish? ⟨.create, false, "unix"⟩ with
  | none => .malformed "no such access mode"
  | some w =>
    let writable := w.mode != .readOnly
    let immutable := isWished "immutable" given
    match Medium.ofText? w.medium with
    | none => .malformed "no such vfs"
    | some .memory =>
      let named := path.length != 1 && (path.startsWith "/" || path.startsWith "\\")
      .memory (writable && !immutable) (w.shared || named)
    | some (.files locking) =>
      if path == "" then .memory writable false
      else if path == ":memory:" || w.mode = .memory then .memory writable w.shared
      else
        .file path {
          create := w.mode == .create
          writable
          immutable
          locking := if isWished "nolock" given then .none else locking
          modeOf := given.lookup "modeof" }

/-- What a name with a scheme stands for, given what follows the scheme. -/
def ofScheme (r : List Char) : DatabaseName :=
  let (authority, r) := match r with
    | '/' :: '/' :: r => (r.takeWhile (· != '/'), r.dropWhile (· != '/'))
    | _ => ([], r)
  if !authority.isEmpty && authority != "localhost".toList then
    .malformed "invalid uri authority"
  else
    let r := r.takeWhile (· != '#')
    ofPath (partText (r.takeWhile (· != '?'))) (parameters ((r.dropWhile (· != '?')).drop 1))

/-- What a name stands for. -/
def ofText (name : String) : DatabaseName :=
  if name.toList.contains '\x00' then .malformed "nul byte found in provided data"
  else if name == "" || name == ":memory:" then .memory true false
  else
    match name.toList with
    | 'f' :: 'i' :: 'l' :: 'e' :: ':' :: r => ofScheme r
    | _ => .file name ⟨true, true, false, .shared, none⟩

end DatabaseName

end EnvProfiles
