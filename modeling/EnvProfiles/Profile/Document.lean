import EnvProfiles.Dict
import EnvProfiles.Profile.Fault
import EnvProfiles.Text.Blank
import EnvProfiles.Yaml.Read

/-!
# Profile Documents

What one profile says, before anything is inherited or filled in: the profiles
it extends, the variables it keeps to itself, and the variables it exports. All
three may be missing, and a text of white space or a null says nothing at all.
Names and values may be any single words of YAML and count as their text.

The parts are checked in a fixed order, so the fault that is reported is the
first one: the root, the ancestors, the local block, the exported block, and
within a block each name before its value.

## Main definitions

* `Document`: What a profile says.
* `Document.ofValue`: What a YAML value says as a profile.
* `Document.parse`: What the text stored under a key says.
-/

namespace EnvProfiles

/-- What a profile says. -/
structure Document where
  /-- The profiles it extends, in order. -/
  ancestors : List String
  /-- The variables it keeps to itself. -/
  locals : Dict
  /-- The templates of the variables it exports. -/
  exports : Dict
deriving DecidableEq, Repr

namespace Document

open Yaml (Value)

/-- The document that says nothing. -/
def empty : Document := ⟨[], .empty, .empty⟩

/-- The name of an ancestor, which may be any single word but a null. -/
def ancestor : Value → Except DocumentFault String
  | .null => .error (.ancestorShape .null)
  | v =>
    match v.scalarText? with
    | some name => .ok name
    | none => .error (.ancestorShape (.ofValue v))

/-- The names of the ancestors. -/
def ancestorsOf : Option Value → Except DocumentFault (List String)
  | none => .ok []
  | some .null => .ok []
  | some (.sequence items) => items.mapM ancestor
  | some v => .error (.ancestorsShape (.ofValue v))

/-- One variable of a block. -/
def binding (block : Block) (entry : Value × Value) : Except DocumentFault (String × String) :=
  match entry.1.scalarText? with
  | none => .error (.nameShape block (.ofValue entry.1))
  | some name =>
    match entry.2.scalarText? with
    | none => .error (.valueShape block name (.ofValue entry.2))
    | some value => .ok (name, value)

/-- The variables of a block; of several whose names have the same text the last one counts. -/
def variablesOf (block : Block) : Option Value → Except DocumentFault Dict
  | none => .ok .empty
  | some .null => .ok .empty
  | some (.mapping entries) => (entries.mapM (binding block)).map Dict.ofList
  | some v => .error (.blockShape block (.ofValue v))

/-- What the entries of a mapping say as a profile. -/
def ofEntries (entries : List (Value × Value)) : Except DocumentFault Document := do
  let ancestors ← ancestorsOf (Value.find? "extends" entries)
  let locals ← variablesOf .locals (Value.find? Block.locals.key entries)
  let exports ← variablesOf .exports (Value.find? Block.exports.key entries)
  return ⟨ancestors, locals, exports⟩

/-- What a YAML value says as a profile. -/
def ofValue : Value → Except DocumentFault Document
  | .null => .ok .empty
  | .mapping entries => ofEntries entries
  | v => .error (.rootShape (.ofValue v))

/-- What a text says as a profile. -/
def ofText (text : String) : Except DocumentFault Document :=
  if isBlankText text then .ok .empty
  else
    match Yaml.read? text with
    | some v => ofValue v
    | none => .error (.notYaml "the text is not a YAML document")

/-- What the text stored under a key says. -/
def parse (key text : String) : Except ProfileFault Document :=
  (ofText text).mapError (.unreadable key)

/-- What a text says as a profile does not depend on the key it is stored under. -/
theorem parse_eq_ok {key text : String} {doc : Document} :
    parse key text = .ok doc ↔ ofText text = .ok doc := by
  unfold parse
  cases ofText text with
  | ok found =>
      exact ⟨fun h => congrArg _ (Except.ok.inj h), fun h => congrArg _ (Except.ok.inj h)⟩
  | error cause => exact ⟨fun h => (nomatch h), fun h => (nomatch h)⟩

/-- The fault of a text names the key that the text is stored under. -/
theorem parse_eq_error {key text : String} {fault : ProfileFault} :
    parse key text = .error fault ↔
      ∃ cause, ofText text = .error cause ∧ .unreadable key cause = fault := by
  unfold parse
  cases ofText text with
  | ok doc => exact ⟨fun h => (nomatch h), fun ⟨_, h, _⟩ => (nomatch h)⟩
  | error cause =>
      change Except.error (ProfileFault.unreadable key cause) = .error fault ↔ _
      simp only [Except.error.injEq, exists_eq_left']

end Document

end EnvProfiles
