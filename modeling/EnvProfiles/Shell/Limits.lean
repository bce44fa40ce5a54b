import EnvProfiles.Shell.Parameters

/-!
# Limits

The command of the shell that shows and changes what a script may use up. A
script can lower its limits, and raise the soft ones again up to the hard ones.

## Main definitions

* `Shell.Resource`: What can be used up.
* `Shell.ulimitBuiltin`: Shows or changes limits.
-/

namespace EnvProfiles.Shell

/-- What can be used up. -/
structure Resource where
  letter : Char
  name : String
  /-- How many units make one that is shown. -/
  factor : Nat
  /-- The limits of a script that sets none; there may be no limit. -/
  usual : Limit

/-- What can be used up, as it is listed. -/
def resources : List Resource :=
  let free (letter : Char) (name : String) (factor : Nat) : Resource :=
    ⟨letter, name, factor, ⟨none, none⟩⟩
  [free 't' "time(seconds)" 1, free 'f' "file(blocks)" 512, free 'd' "data(kbytes)" 1024,
    ⟨'s', "stack(kbytes)", 1024, ⟨some 8388608, none⟩⟩,
    ⟨'c', "coredump(blocks)", 512, ⟨some 0, none⟩⟩, free 'm' "memory(kbytes)" 1024,
    ⟨'l', "locked memory(kbytes)", 1024, ⟨some 8388608, some 8388608⟩⟩,
    free 'p' "process" 1, ⟨'n', "nofiles", 1, ⟨some 1048576, some 1048576⟩⟩,
    free 'v' "vmemory(kbytes)" 1024, free 'w' "locks" 1, ⟨'r', "rtprio", 1, ⟨some 0, some 0⟩⟩]

/-- Whether a limit is greater than another one. -/
def exceeds : Option Nat → Option Nat → Bool
  | _, none => false
  | none, some _ => true
  | some a, some b => b < a

/-- The limits of a resource. -/
def limitOf (s : Session) (r : Resource) : Limit := (s.limits.lookup r.letter).getD r.usual

/-- Shows or changes limits. -/
def ulimitBuiltin : Builtin := fun arguments => do
  let (flags, r) ← readFlags "HSatfdscmlpnvwr" arguments
  let all := flags.contains 'a'
  let kind := flags.filter fun c => c == 'H' || c == 'S'
  let changesSoft := kind.getLast? != some 'H'
  let changesHard := kind.getLast? != some 'S'
  let letter := ((flags.filter fun c => !"HSa".toList.contains c).getLast?).getD 'f'
  let s ← get
  let text (r : Resource) : String :=
    let limit := limitOf s r
    match if changesSoft then limit.soft else limit.hard with
    | some n => toString (n / r.factor) ++ "\n"
    | none => "unlimited\n"
  if all && !r.isEmpty then fail "too many arguments"
  if all then
    return (0, String.join (resources.map fun r =>
      r.name ++ String.ofList (List.replicate (20 - r.name.length) ' ') ++ " " ++ text r))
  match resources.find? (·.letter == letter) with
  | none => return (0, "")
  | some resource =>
    match r with
    | [] => return (0, text resource)
    | [a] =>
      let value : Option Nat ←
        if a == "unlimited" then pure none
        else if a.toList.all Char.isDigit then pure (some (a.toNat?.getD 0 * resource.factor))
        else fail "bad number"
      let old := limitOf s resource
      let new : Limit :=
        ⟨if changesSoft then value else old.soft, if changesHard then value else old.hard⟩
      if exceeds new.soft new.hard then fail "error setting limit (Invalid argument)"
      if exceeds new.hard old.hard then fail "error setting limit (Operation not permitted)"
      set { s with limits := (letter, new) :: s.limits.filter fun l => l.1 != letter }
      return (0, "")
    | _ => fail "too many arguments"

end EnvProfiles.Shell
