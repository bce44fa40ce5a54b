import EnvProfiles.Settings.Value
import EnvProfiles.Text.Blank

/-!
# Paths to Settings

A setting is named by a path: a word, followed by dots with further words and by
brackets with the numbers of items. A word consists of letters and digits of
ASCII, underscores and hyphens.

## Main definitions

* `KeyPath`: A path.
* `KeyPath.ofText?`: The path that a text denotes.
* `KeyPath.assign`: Lays a value over what a path leads to.
-/

namespace EnvProfiles

/-- One step of a path: to a key of a table, or to an item of an array, which is counted from the
end if its number is negative. -/
inductive KeyStep where
  | key (name : String)
  | item (number : Int)
deriving DecidableEq, Repr

/-- A path to a setting. -/
structure KeyPath where
  root : String
  steps : List KeyStep
deriving DecidableEq, Repr

namespace KeyPath

/-- The path that consists of one key, whatever its characters are. -/
def single (key : String) : KeyPath := ⟨key, []⟩

/-- Whether a character may stand in a word of a path. -/
def isWordChar (c : Char) : Bool := c.isAlphanum || c == '_' || c == '-'

/-- A word, of at least one character. -/
def word? (cs : List Char) : Option (String × List Char) :=
  let w := cs.takeWhile isWordChar
  if w.isEmpty then none else some (String.ofList w, cs.drop w.length)

/-- Passes blanks within brackets. -/
def skipBlanks (cs : List Char) : List Char := cs.dropWhile fun c => c == ' ' || c == '\t'

/-- The number of an item between blanks, and the bracket that closes it. -/
def number? (cs : List Char) : Option (Int × List Char) :=
  let cs := skipBlanks cs
  let (negative, cs) := match cs with
    | '-' :: r => (true, r)
    | _ => (false, cs)
  let ds := cs.takeWhile Char.isDigit
  let n : Int := ds.foldl (fun v d => v * 10 + (d.toNat - '0'.toNat)) 0
  let n := if negative then -n else n
  if ds.isEmpty || !fitsSigned 64 n then none
  else
    match skipBlanks (cs.drop ds.length) with
    | ']' :: r => some (n, r)
    | _ => none

/-- The steps after the first word. -/
def steps? : Nat → List Char → Option (List KeyStep)
  | 0, _ => none
  | n + 1, cs =>
    match cs with
    | [] => some []
    | '.' :: r => do
      let (w, r) ← word? r
      return .key w :: (← steps? n r)
    | '[' :: r => do
      let (i, r) ← number? r
      return .item i :: (← steps? n r)
    | _ => none

/-- The path that a text denotes. -/
def ofText? (text : String) : Option KeyPath := do
  let (root, r) ← word? text.toList
  let steps ← steps? (r.length + 1) r
  return ⟨root, steps⟩

/-- Changes an item of an array, which is made long enough for it. -/
def changeItem (number : Int) (f : Setting → Setting) (items : List Setting) : List Setting :=
  if 0 ≤ number then
    let i := number.toNat
    let items := items ++ List.replicate (i + 1 - items.length) .nothing
    items.mapIdx fun j s => if j == i then f s else s
  else
    let back := number.natAbs
    -- Counting from the end, the array grows at its start.
    let items := List.replicate (back - items.length) .nothing ++ items
    let i := items.length - back
    items.mapIdx fun j s => if j == i then f s else s

/-- The items of an array; any other value counts as an array without items. -/
def itemsOf : Setting → List Setting
  | .array items => items
  | _ => []

/-- Changes what steps lead to, making the tables and arrays on the way. -/
def changeAt (f : Setting → Setting) : List KeyStep → Setting → Setting
  | [], s => f s
  | .key name :: r, s => s.change name (changeAt f r)
  | .item n :: r, s => .array (changeItem n (changeAt f r) (itemsOf s))

/-- Lays a value over what a path leads to. -/
def assign (path : KeyPath) (value root : Setting) : Setting :=
  changeAt (fun old => old.overlay value) (.key path.root :: path.steps) root

end KeyPath

end EnvProfiles
