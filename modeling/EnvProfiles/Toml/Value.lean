import EnvProfiles.Decimal.Double

/-!
# Values of TOML

What a TOML text can say: numbers, texts, truth values, moments, arrays and
tables. A moment is kept as its text, since nothing here reckons with time.

## Main definitions

* `Toml`: A value.
* `TomlTable`: Keys with their values.
-/

namespace EnvProfiles

/-- A value of TOML. -/
inductive Toml where
  | bool (b : Bool)
  | int (n : Int)
  | float (x : Double)
  | text (s : String)
  /-- A date, a time of day, or both, in its usual form. -/
  | moment (s : String)
  | array (items : List Toml)
  | table (entries : List (String × Toml))

/-- Keys with their values, in the order in which the keys were first given. -/
abbrev TomlTable := List (String × Toml)

end EnvProfiles
