import EnvProfiles.Yaml.Cursor

/-!
# Folded Lines

Scalars that run over several lines. In a plain or a quoted scalar the white
space around a line break does not count: one break becomes a space, and of
more than one the first is dropped.

## Main definitions

* `Gap`: White space between two stretches of a scalar.
* `Gap.text`: What it contributes to the scalar.
* `Gap.read?`: Reads the white space that comes next.
-/

namespace EnvProfiles.Yaml

/-- White space between two stretches of a scalar: the blanks before any line break, the first
break, and the breaks after it. -/
structure Gap where
  blanks : List Char
  first : List Char
  more : List Char
  broken : Bool

namespace Gap

/-- No white space. -/
def none : Gap := ⟨[], [], [], false⟩

/-- A line break that has been escaped: the breaks after it count, and it does not. -/
def escaped : Gap := ⟨[], [], [], true⟩

/-- What the white space contributes to the scalar. -/
def text (g : Gap) : List Char :=
  if g.broken then
    if g.first == ['\n'] then (if g.more.isEmpty then [' '] else g.more) else g.first ++ g.more
  else g.blanks

/-- Adds the line break that comes next. -/
def addBreak (g : Gap) (c : Cursor) : Gap :=
  if g.broken then { g with more := g.more ++ c.breakText }
  else { g with blanks := [], first := c.breakText, broken := true }

/-- Adds a blank, which counts only before the first line break. -/
def addBlank (g : Gap) (x : Char) : Gap :=
  if g.broken then g else { g with blanks := g.blanks ++ [x] }

/-- Reads the white space that comes next. A tab may not indent a line to less than `margin`. -/
def read? (margin : Nat) : Nat → Cursor → Gap → Option (Gap × Cursor)
  | 0, _, _ => Option.none
  | n + 1, c, g =>
    match c.rest with
    | [] => some (g, c)
    | x :: _ =>
      if isBlank x then
        if g.broken && c.column < margin && x == '\t' then Option.none
        else read? margin n c.advance (g.addBlank x)
      else if isBreak x then read? margin n c.skipBreak (g.addBreak c)
      else some (g, c)

end Gap

end EnvProfiles.Yaml
