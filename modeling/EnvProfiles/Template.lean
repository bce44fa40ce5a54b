import EnvProfiles.Dict

/-!
# Templates

Text with placeholders. A placeholder is a dollar sign followed by a name, or
by a name in braces, where a name is one or more of the letters, digits and
underscores of ASCII. Every other dollar sign is an ordinary character, so no
text fails to be a template.

A template is first cut into pieces, once, from the left; filling it in and
listing its names both read the pieces. A value that is put in is therefore
never looked at again, whatever dollar signs it holds.

## Main definitions

* `Placeholder`: A name, and whether braces stand around it.
* `Placeholder.ofRest?`: The placeholder that a dollar sign begins, if any.
* `Template.pieces`: A text as characters and placeholders.
* `Template.placeholders`: The names that a text asks for, in order.
* `Template.fill`: The text with every placeholder replaced by its value.

## Theorems

* `flatten_spelling_pieces`: The pieces spell the text they were cut from.
* `fill_congr`: The names that a template asks for decide what it comes to.
-/

namespace EnvProfiles

/-- Whether a character may stand in the name of a placeholder. -/
def isNameChar (c : Char) : Bool := c.isAlphanum || c == '_'

/-- A name to be filled in, and whether it was written in braces. -/
structure Placeholder where
  name : List Char
  braced : Bool
deriving DecidableEq, Repr

namespace Placeholder

/-- What follows the dollar sign. -/
def body (p : Placeholder) : List Char :=
  if p.braced then '{' :: p.name ++ ['}'] else p.name

/-- The placeholder as it stands in a template. -/
def spelling (p : Placeholder) : List Char := '$' :: p.body

/-- The placeholder that a dollar sign begins when `rest` follows it: the longest name that
starts there, or else a name that is closed off by braces. -/
def ofRest? (rest : List Char) : Option Placeholder :=
  match rest.takeWhile isNameChar with
  | c :: word => some ⟨c :: word, false⟩
  | [] =>
    match rest with
    | '{' :: r =>
      match r.takeWhile isNameChar, r.dropWhile isNameChar with
      | c :: word, '}' :: _ => some ⟨c :: word, true⟩
      | _, _ => none
    | _ => none

/-- A placeholder that was found stands at the front of the text it was found in. -/
theorem body_prefix_of_ofRest? {rest : List Char} {p : Placeholder}
    (h : ofRest? rest = some p) : rest = p.body ++ rest.drop p.body.length := by
  have key : ∀ r : List Char, p.body ++ r = rest → rest = p.body ++ rest.drop p.body.length := by
    intro r hr
    rw [← hr, List.drop_left]
  unfold ofRest? at h
  split at h
  next c word hw =>
    cases h
    refine key (rest.dropWhile isNameChar) ?_
    simp only [body, Bool.false_eq_true, if_false]
    rw [← hw, List.takeWhile_append_dropWhile]
  next =>
    split at h
    next r _ =>
      split at h
      next c word tail hw hd =>
        cases h
        refine key tail ?_
        have := List.takeWhile_append_dropWhile (p := isNameChar) (l := r)
        rw [hw, hd] at this
        simp only [body, if_true, List.cons_append, List.append_assoc, List.nil_append,
          List.cons.injEq, true_and]
        exact this
      next => exact nomatch h
    next => exact nomatch h

end Placeholder

/-- A stretch of a template. -/
inductive Piece where
  | literal (c : Char)
  | placeholder (p : Placeholder)
deriving DecidableEq, Repr

namespace Piece

/-- The piece as it stands in a template. -/
def spelling : Piece → List Char
  | literal c => [c]
  | placeholder p => p.spelling

/-- The piece with its value in place; a name without one is replaced by nothing. -/
def fill (scope : Dict) : Piece → List Char
  | literal c => [c]
  | placeholder p => ((scope.get? (String.ofList p.name)).getD "").toList

/-- The name that the piece asks for. -/
def name? : Piece → Option String
  | literal _ => none
  | placeholder p => some (String.ofList p.name)

/-- A piece is filled in from the value of the name that it asks for, and from nothing else. -/
theorem fill_congr {scope other : Dict} {piece : Piece}
    (h : ∀ n, piece.name? = some n → other.get? n = scope.get? n) :
    piece.fill other = piece.fill scope := by
  cases piece with
  | literal c => rfl
  | placeholder p => rw [fill, fill, h _ rfl]

end Piece

namespace Template

/-- Cuts a text into characters and placeholders, from the left. -/
def pieces : List Char → List Piece
  | [] => []
  | c :: r =>
    if c = '$' then
      match Placeholder.ofRest? r with
      | some p => .placeholder p :: pieces (r.drop p.body.length)
      | none => .literal c :: pieces r
    else .literal c :: pieces r
termination_by cs => cs.length
decreasing_by
  all_goals simp only [List.length_cons, List.length_drop]; omega

/-- The pieces spell the text they were cut from. -/
theorem flatten_spelling_pieces (cs : List Char) :
    (pieces cs).flatMap Piece.spelling = cs := by
  fun_induction pieces cs with
  | case1 => rfl
  | case2 r p hp ih =>
    rw [List.flatMap_cons, ih]
    simp only [Piece.spelling, Placeholder.spelling, List.cons_append, List.cons.injEq, true_and]
    exact (Placeholder.body_prefix_of_ofRest? hp).symm
  | case3 r hp ih => rw [List.flatMap_cons, ih]; rfl
  | case4 c r hc ih => rw [List.flatMap_cons, ih]; rfl

/-- The names that a template asks for, in order and with repeats. -/
def placeholders (template : String) : List String :=
  (pieces template.toList).filterMap Piece.name?

/-- The template with every placeholder replaced by the value of its name. -/
def fill (template : String) (scope : Dict) : String :=
  String.ofList ((pieces template.toList).flatMap (Piece.fill scope))

/-- A template is filled in from the values of the names that it asks for, and from nothing else. -/
theorem fill_congr {template : String} {scope other : Dict}
    (h : ∀ n ∈ placeholders template, other.get? n = scope.get? n) :
    fill template other = fill template scope := by
  have hpieces : (pieces template.toList).map (Piece.fill other)
      = (pieces template.toList).map (Piece.fill scope) :=
    List.map_congr_left fun piece hpiece =>
      Piece.fill_congr fun n hn => h n (List.mem_filterMap.mpr ⟨piece, hpiece, hn⟩)
  rw [fill, fill, List.flatMap_def, List.flatMap_def, hpieces]

end Template

end EnvProfiles
