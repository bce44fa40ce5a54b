import EnvProfiles.Yaml.Lexer
import EnvProfiles.Yaml.Scalar

/-!
# Reading YAML

The value of a YAML text. After the nodes have been found, aliases are replaced
by what they stand for, scalars are interpreted, and the keys of every mapping
are checked to differ. Two limits keep the result small: collections may be
nested 128 deep, counting through aliases, and aliases may be followed a hundred
times for every node of the document.

## Main definitions

* `Node.value?`: The value of a node.
* `read?`: The value of a text.
-/

namespace EnvProfiles.Yaml

/-- How deep collections may be nested. -/
def depthLimit : Nat := 128

/-- How often aliases may be followed for every part of a document. -/
def aliasLimit : Nat := 100

/-- A value, given how many aliases may still be followed. -/
abbrev Budget := StateT Nat Option

/-- Whether the keys of a mapping differ from each other. -/
def distinctKeys : List (Value × Value) → Bool
  | [] => true
  | (k, _) :: r => r.all (fun e => !k.same e.1) && distinctKeys r

namespace Node

/-- The node that an alias stands for; any other node stands for itself. -/
def follow (targets : List (Nat × Node)) : Node → Budget Node
  | reference n => fun budget =>
    -- A node that holds itself is followed until the budget or the depth is used up.
    match budget, targets.lookup n with
    | left + 1, some node => some (node, left)
    | _, _ => none
  | node => pure node

/-- The value of a collection under its tag. A tag counts only if it names an application. -/
def underTag (tag : Tag) (v : Value) : Value :=
  match tag with
  | .named name => .tagged name v
  | _ => v

/-- The value of a node within a document, in which `depth` levels may still be opened. -/
def value? (targets : List (Nat × Node)) : Nat → Node → Budget Value
  | depth, node => do
    match ← node.follow targets with
    | reference _ => failure
    | scalar _ tag text plain => StateT.lift (scalarValue? tag text plain)
    | sequence _ tag items =>
      match depth with
      | 0 => failure
      | d + 1 => return underTag tag (.sequence (← items.mapM (value? targets d)))
    | mapping _ tag entries =>
      match depth with
      | 0 => failure
      | d + 1 =>
        let entries ← entries.mapM fun (k, v) => do
          let k ← value? targets d k
          let v ← value? targets d v
          return (k, v)
        if distinctKeys entries then return underTag tag (.mapping entries) else failure

end Node

/-- The value of a text, unless the text breaks the rules of YAML. -/
def read? (text : String) : Option Value := do
  let tokens ← tokens? text.toList
  let node ← Node.ofTokens? tokens
  let (v, _) ← (node.value? node.anchored.reverse depthLimit).run (aliasLimit * node.size)
  return v

end EnvProfiles.Yaml
