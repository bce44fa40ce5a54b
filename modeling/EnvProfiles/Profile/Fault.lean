import EnvProfiles.Yaml.Value

/-!
# What Can Be Wrong with a Profile

The causes for which a profile cannot be read or resolved, and the wording of
each. A text may fail to be YAML, or be YAML of the wrong shape; a profile may
name one that is not stored, or be its own ancestor.

## Main definitions

* `Shape`: What a value is called where another kind was expected.
* `DocumentFault`: Why a text is no profile.
* `ProfileFault`: Why a profile cannot be resolved.
-/

namespace EnvProfiles

/-- The kind of a value, as far as it matters to a profile. -/
inductive Shape where
  | null
  | bool
  | number
  | text
  | sequence
  | mapping
  | tagged
deriving DecidableEq, Repr

namespace Shape

/-- The shape of a value. -/
def ofValue : Yaml.Value → Shape
  | .null => null
  | .bool _ => bool
  | .int _ => number
  | .float _ => number
  | .text _ => text
  | .sequence _ => sequence
  | .mapping _ => mapping
  | .tagged _ _ => tagged

/-- What a shape is called. -/
def name : Shape → String
  | null => "null"
  | bool => "a boolean"
  | number => "a number"
  | text => "a string"
  | sequence => "a sequence"
  | mapping => "a mapping"
  | tagged => "a tagged value"

end Shape

/-- The two blocks of variables in a profile. -/
inductive Block where
  | locals
  | exports
deriving DecidableEq, Repr

/-- The key under which a block stands. -/
def Block.key : Block → String
  | .locals => "local"
  | .exports => "env"

/-- Why a text is no profile. -/
inductive DocumentFault where
  /-- The text breaks the rules of YAML, in a way that its reader describes. -/
  | notYaml (detail : String)
  | rootShape (found : Shape)
  | ancestorsShape (found : Shape)
  | ancestorShape (found : Shape)
  | blockShape (block : Block) (found : Shape)
  | nameShape (block : Block) (found : Shape)
  | valueShape (block : Block) (name : String) (found : Shape)
deriving DecidableEq, Repr

/-- The wording of a fault of a text. -/
def DocumentFault.message : DocumentFault → String
  | notYaml detail => detail
  | rootShape found => "expected a mapping, found " ++ found.name
  | ancestorsShape found => "extends must be a sequence, found " ++ found.name
  | ancestorShape found => "extends entries must be profile names, found " ++ found.name
  | blockShape block found => block.key ++ " must be a mapping, found " ++ found.name
  | nameShape block found => block.key ++ " keys must be scalars, found " ++ found.name
  | valueShape block name found =>
    block.key ++ "." ++ name ++ " must be a scalar, found " ++ found.name

/-- Why a profile cannot be resolved. -/
inductive ProfileFault where
  /-- No profile is stored under a key. -/
  | notFound (key : String)
  /-- The text under a key is no profile. -/
  | unreadable (key : String) (cause : DocumentFault)
  /-- Profiles extend each other in a circle; the first is named again at the end. -/
  | cyclic (cycle : List String)
deriving DecidableEq, Repr

/-- The wording of a fault of a profile. -/
def ProfileFault.message : ProfileFault → String
  | notFound key => "profile not found: " ++ key
  | unreadable key cause => "failed to parse profile '" ++ key ++ "': " ++ cause.message
  | cyclic cycle => "cyclic extends: " ++ String.intercalate " -> " cycle

end EnvProfiles
