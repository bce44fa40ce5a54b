import EnvProfiles.Decimal.Shortest
import EnvProfiles.Toml.Value

/-!
# Values of Settings

What a source of settings says under a key, and how one source is laid over
another: tables are merged key by key, and any other value replaces what was
there.

## Main definitions

* `Setting`: A value, or nothing.
* `Setting.change`: Changes what stands under a key of a table.
* `Setting.overlay`: Lays one value over another.
* `Setting.text?`: The text of a single value.
-/

namespace EnvProfiles

/-- What a source of settings says under a key. -/
inductive Setting where
  | nothing
  | bool (b : Bool)
  | int (n : Int)
  | float (x : Double)
  | text (s : String)
  | array (items : List Setting)
  | table (entries : List (String × Setting))

namespace Setting

/-- The keys of a table; any other value counts as a table without keys. -/
def entriesOf : Setting → List (String × Setting)
  | table entries => entries
  | _ => []

/-- What stands under a key of a table. -/
def under (s : Setting) (key : String) : Setting := (s.entriesOf.lookup key).getD nothing

/-- Replaces what stands under a key, or adds the key at the end. -/
def put (key : String) (value : Setting) : List (String × Setting) → List (String × Setting)
  | [] => [(key, value)]
  | e :: r => if e.1 == key then (key, value) :: r else e :: put key value r

/-- Changes what stands under a key. A value that is not a table gives way to one. -/
def change (s : Setting) (key : String) (f : Setting → Setting) : Setting :=
  table (put key (f (s.under key)) s.entriesOf)

/-- What there is to lay a table over: any value that is not a table gives way to an empty one. -/
def ground (s : Setting) : Setting := table s.entriesOf

mutual

/-- Lays a value over another. A table is laid over key by key, and any other value replaces what
was there. -/
def overlay (s : Setting) : Setting → Setting
  | nothing => nothing
  | bool b => bool b
  | int n => int n
  | float x => float x
  | text t => text t
  | array items => array items
  | table entries => overlayEntries s.ground entries

/-- Lays the keys of a table over a value. -/
def overlayEntries (s : Setting) : List (String × Setting) → Setting
  | [] => s
  | (key, value) :: r =>
    overlayEntries (table (put key (overlay (s.under key) value) s.entriesOf)) r

end

mutual

/-- What a value of TOML says as a setting. -/
def ofToml : Toml → Setting
  | .bool b => bool b
  | .int n => int n
  | .float x => float x
  | .text t => text t
  | .moment t => text t
  | .array items => array (ofItems items)
  | .table entries => table (ofEntries entries)

/-- What the items of an array say as settings. -/
def ofItems : List Toml → List Setting
  | [] => []
  | v :: r => ofToml v :: ofItems r

/-- What the keys of a table say as settings. -/
def ofEntries : List (String × Toml) → List (String × Setting)
  | [] => []
  | (key, v) :: r => (key, ofToml v) :: ofEntries r

end

/-- A number is written without an exponent, and a whole one without a point. -/
def floatLayout : Layout := ⟨fun _ => true, "", "inf", "NaN"⟩

/-- The text of a single value. -/
def text? : Setting → Option String
  | bool b => some (if b then "true" else "false")
  | int n => some (toString n)
  | float x => some (x.text floatLayout)
  | text s => some s
  | nothing => none
  | array _ => none
  | table _ => none

end Setting

end EnvProfiles
