import EnvProfiles.Yaml.Fold

/-!
# Plain Scalars

Scalars without quotes. A plain scalar ends before a colon that white space
follows, before a comment, and before a line that is indented less than the
block around it; within brackets also before the characters that structure the
brackets.

## Main definitions

* `startsPlain`: Whether a plain scalar may begin at a place.
* `plainScalar?`: Reads a plain scalar.
-/

namespace EnvProfiles.Yaml

/-- The characters that begin a token of another kind. -/
def indicators : List Char := "-?:,[]\x7b\x7d#&*!|>'\"%@\x60".toList

/-- Whether a plain scalar may begin at a place. -/
def startsPlain (inFlow : Bool) (c : Cursor) : Bool :=
  match c.rest with
  | [] => false
  | x :: _ =>
    !(isBlank x || isBreak x || indicators.contains x) ||
      (x == '-' && !c.second isBlank) ||
      (!inFlow && (x == '?' || x == ':') && !c.blankAt 1)

/-- The characters that structure brackets. -/
def isFlowMark (x : Char) : Bool := ",[]\x7b\x7d".toList.contains x

/-- The characters of a plain scalar up to white space or its end. The outcome is `none` if a
colon within brackets touches one of the characters that structure them. -/
def plainWord? (inFlow : Bool) : Nat → Cursor → List Char → Option (List Char × Cursor)
  | 0, _, _ => none
  | n + 1, c, acc =>
    match c.rest with
    | [] => some (acc.reverse, c)
    | x :: _ =>
      if isBlank x || isBreak x then some (acc.reverse, c)
      -- Within brackets such a colon is neither text nor the end of a key.
      else if inFlow && x == ':' && c.second (fun y => isFlowMark y || y == '?') then none
      else if (x == ':' && c.blankAt 1) || (inFlow && isFlowMark x) then some (acc.reverse, c)
      else plainWord? inFlow n c.advance (x :: acc)

/-- Reads the stretches of a plain scalar and the white space between them. -/
def plainLoop (inFlow : Bool) (margin : Nat) :
    Nat → Cursor → Gap → List Char → Option (List Char × Bool × Cursor)
  | 0, _, _, _ => none
  | n + 1, c, gap, acc =>
    if c.atDocumentMark || c.next (· == '#') then some (acc, gap.broken, c)
    else do
      let (word, c) ← plainWord? inFlow c.steps c []
      let (acc, gap) := if word.isEmpty then (acc, gap) else (acc ++ gap.text ++ word, Gap.none)
      if !(c.atBlank || c.atBreak) then return (acc, gap.broken, c)
      else
        let (gap, c) ← gap.read? margin c.steps c
        -- A line to the left of the margin belongs to a block further out.
        if !inFlow && c.column < margin then return (acc, gap.broken, c)
        else plainLoop inFlow margin n c gap acc

/-- Reads a plain scalar. Besides its text the outcome tells whether a line ended after it. -/
def plainScalar? (inFlow : Bool) (margin : Nat) (c : Cursor) :
    Option (List Char × Bool × Cursor) :=
  plainLoop inFlow margin c.steps c Gap.none []

end EnvProfiles.Yaml
