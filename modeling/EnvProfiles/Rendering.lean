import EnvProfiles.Dict
import EnvProfiles.Text.Quoted

/-!
# Renderings of an Environment

The two ways in which a set of variables is printed: one line per variable,
with an equals sign between name and value and nothing quoted, or one JSON
object. Both list the variables in ascending order of their names.

## Main definitions

* `Rendering`: The two forms.
* `Rendering.assignments`, `Rendering.object`: The text of either form.
* `Rendering.render`: The text of the form that was asked for.
-/

namespace EnvProfiles

/-- How a set of variables is printed. -/
inductive Rendering where
  | lines
  | json
deriving DecidableEq, Repr

namespace Rendering

/-- One line of the form `name=value` per variable, none of them ended. -/
def assignments (vars : Dict) : String :=
  String.intercalate "\n" (vars.toList.map fun (name, value) => name ++ "=" ++ value)

/-- A member of the object on a line of its own, indented by two spaces. -/
def member (name value : String) : String :=
  "  " ++ Quoted.quote name ++ ": " ++ Quoted.quote value

/-- A JSON object with a line per variable, or a pair of braces when there is none. -/
def object (vars : Dict) : String :=
  if vars.isEmpty then "\x7b\x7d"
  else "\x7b\n" ++ String.intercalate ",\n" (vars.toList.map fun (n, v) => member n v) ++ "\n\x7d"

/-- The text of a set of variables in the form that was asked for. -/
def render (form : Rendering) (vars : Dict) : String :=
  match form with
  | .lines => assignments vars
  | .json => object vars

end Rendering

end EnvProfiles
