/-!
# Tokens of YAML

The parts into which a YAML text falls before its structure is known. Blocks
are marked by indentation in the text and by tokens of their own here, and a
token `key` stands before every key, also before one that the text marks only
by the colon after it.

## Main definitions

* `Token`: One part of a YAML text.
* `Label`: The characters of a tag, of which some may be unreadable.
* `bareTag`: A tag without the mark before it.
-/

namespace EnvProfiles.Yaml

/-- The characters of a tag. A tag may give characters by their octets in hexadecimal; octets that
encode no character are recorded as `none`. -/
abbrev Label := List (Option Char)

/-- A tag without the exclamation mark before it; the mark alone is a tag too. -/
def bareTag (tag : String) : String :=
  match tag.toList with
  | '!' :: x :: r => String.ofList (x :: r)
  | _ => tag

/-- The part of a YAML text that comes next. -/
inductive Token where
  /-- The directive that names the version of YAML. -/
  | version (major minor : Nat)
  /-- The directive that lets a handle stand for the beginning of a tag. -/
  | handle (name : List Char) (meaning : Label)
  /-- The mark that begins a document. -/
  | documentStart
  /-- The mark that ends a document. -/
  | documentEnd
  | blockSequenceStart
  | blockMappingStart
  /-- A line that is indented less than the innermost block. -/
  | blockEnd
  | flowSequenceStart
  | flowSequenceEnd
  | flowMappingStart
  | flowMappingEnd
  /-- The hyphen before an item. -/
  | blockEntry
  /-- The comma between items. -/
  | flowEntry
  | key
  | value
  | reference (name : List Char)
  | anchor (name : List Char)
  /-- A tag, given by a handle, which is empty for a tag in full, and by what follows it. -/
  | tag (name : List Char) (suffix : Label)
  /-- A scalar, and whether it stands without quotes and within a line of structure. -/
  | scalar (text : List Char) (plain : Bool)
deriving DecidableEq, Repr

end EnvProfiles.Yaml
