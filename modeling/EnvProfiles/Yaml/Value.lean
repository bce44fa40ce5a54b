import EnvProfiles.Decimal.Shortest
import EnvProfiles.Yaml.Token

/-!
# Values of a YAML Document

What a document says once its scalars have been interpreted and its aliases
have been followed.

## Main definitions

* `Value`: A null, a truth value, a number, a text, a sequence, a mapping, or a
  value that belongs to an application.
* `Value.same`: Whether two values count as one key of a mapping.
* `Value.scalarText?`: The text of a value that is a single word.
* `Value.find?`: The value of a key that is a text.
-/

namespace EnvProfiles.Yaml

/-- What a node of a document says. -/
inductive Value where
  | null
  | bool (b : Bool)
  | int (n : Int)
  | float (x : Double)
  | text (s : String)
  | sequence (items : List Value)
  | mapping (entries : List (Value × Value))
  /-- A value that belongs to an application, with the name of its tag. -/
  | tagged (tag : String) (value : Value)

namespace Value

mutual

/-- Whether two values count as one key. The order of the keys of a mapping does not matter, and
neither does an exclamation mark that is left at the beginning of a tag's name. -/
def same : Value → Value → Bool
  | null, null => true
  | bool a, bool b => a == b
  | int m, int n => m == n
  | float x, float y => x.same y
  | text s, text t => s == t
  | sequence items, sequence others => sameItems items others
  | mapping entries, mapping others =>
    entries.length == others.length && sameEntries entries others
  | tagged t v, tagged u w => bareTag t == bareTag u && same v w
  | _, _ => false

/-- Whether two sequences agree item by item. -/
def sameItems : List Value → List Value → Bool
  | [], [] => true
  | v :: r, w :: t => same v w && sameItems r t
  | _, _ => false

/-- Whether every entry is found among the others. -/
def sameEntries : List (Value × Value) → List (Value × Value) → Bool
  | [], _ => true
  | (k, v) :: r, others => others.any (fun e => same k e.1 && same v e.2) && sameEntries r others

end

/-- A float keeps the point of a whole number; numbers from 10^16 on and below 10^-5 are written
with an exponent. -/
def floatLayout : Layout := ⟨fun power => -5 ≤ power && power ≤ 15, ".0", ".inf", ".nan"⟩

/-- The text of a value that is a single word; a null is the empty text. -/
def scalarText? : Value → Option String
  | null => some ""
  | bool b => some (if b then "true" else "false")
  | int n => some (toString n)
  | float x => some (x.text floatLayout)
  | text s => some s
  | sequence _ => none
  | mapping _ => none
  | tagged _ _ => none

/-- Whether a value is a given text. -/
def isText (s : String) : Value → Bool
  | text t => t == s
  | _ => false

/-- The value of a key that is a text. -/
def find? (key : String) (entries : List (Value × Value)) : Option Value :=
  (entries.find? fun e => e.1.isText key).map (·.2)

end Value

end EnvProfiles.Yaml
