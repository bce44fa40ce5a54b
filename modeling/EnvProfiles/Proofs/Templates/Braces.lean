import EnvProfiles.Proofs.Templates.Positions

/-!
# Braces around Names

Every placeholder of a template can be written with braces. Doing so is itself
filling the template in, where the value of a name is the placeholder with
braces that asks for it. So the scanner reads what it has written, and what
stands between two placeholders has other neighbours than it had.

No placeholder is made, lost or joined with its neighbour. A placeholder that
is written with braces is read as such whatever follows it. A dollar sign that
begins no placeholder is decided by the text up to the next dollar sign, and
that text stays the same: everything that changes lies behind a dollar sign.

## Main definitions

* `stem`: A text up to its first dollar sign.
* `Piece.brace`: A placeholder with braces.
* `Template.bracesFor`: The values that write names with braces.
* `Template.braced`: A template with braces around every name.

## Theorems

* `Placeholder.ofRest?_stem`: Nothing counts from the next dollar sign on.
* `Template.pieces_brace`: The scanner reads back what was written.
* `Template.fill_braced`: A template and the one with braces come to the same.
-/

namespace EnvProfiles

/-- A text up to its first dollar sign. -/
def stem (cs : List Char) : List Char := cs.takeWhile (· != '$')

theorem stem_cons {c : Char} (hc : c ≠ '$') (cs : List Char) : stem (c :: cs) = c :: stem cs :=
  List.takeWhile_cons_of_pos (bne_iff_ne.mpr hc)

/-- A word belongs to the text up to the first dollar sign. -/
theorem stem_word_append {word : List Char} (h : ∀ c ∈ word, IsWordChar c) (cs : List Char) :
    stem (word ++ cs) = word ++ stem cs :=
  List.takeWhile_append_of_pos fun c hc => bne_iff_ne.mpr (h c hc).ne_dollar

/-- A text is its beginning, and then nothing or a dollar sign. -/
theorem eq_stem_append (cs : List Char) :
    ∃ rest, cs = stem cs ++ rest ∧ ∀ c ∈ rest.head?, c = '$' := by
  refine ⟨cs.dropWhile (· != '$'), List.takeWhile_append_dropWhile.symm, fun c hc => ?_⟩
  have hstop := List.head?_dropWhile_not (· != '$') cs
  rw [Option.mem_def.mp hc] at hstop
  simpa only [bne_eq_false_iff_eq] using hstop

namespace Placeholder

variable {p : Placeholder} {cs : List Char}

theorem Begins.stem (h : p.Begins ('$' :: cs)) : p.Begins ('$' :: stem cs) := by
  cases h with
  | @bare name rest hname hrest =>
      rw [stem_word_append hname.chars]
      refine .bare hname fun c hc => ?_
      -- What is left of the rest begins as the rest does.
      cases rest with
      | nil => exact nomatch hc
      | cons x rest =>
          by_cases hx : x = '$'
          · subst hx
            exact nomatch hc
          · rw [stem_cons hx] at hc
            exact hrest c hc
  | @braced name rest hname =>
      rw [stem_cons (by decide), stem_word_append hname.chars, stem_cons (by decide)]
      exact .braced hname

theorem Begins.of_stem (h : p.Begins ('$' :: EnvProfiles.stem cs)) : p.Begins ('$' :: cs) := by
  -- Behind the beginning there is nothing or a dollar sign, and neither belongs to a name.
  obtain ⟨tail, hcs, htail⟩ := eq_stem_append cs
  generalize EnvProfiles.stem cs = front at h hcs
  subst hcs
  cases h with
  | @bare name rest hname hrest =>
      rw [List.append_assoc]
      refine .bare hname fun c hc => ?_
      cases rest with
      | nil => exact fun hword => hword.ne_dollar (htail c hc)
      | cons x rest => exact hrest c hc
  | @braced name rest hname =>
      rw [List.cons_append, List.append_assoc, List.cons_append]
      exact .braced hname

/-- What a dollar sign begins is decided by the text up to the next one. -/
theorem ofRest?_stem (cs : List Char) : ofRest? (stem cs) = ofRest? cs := by
  refine Option.ext fun p => ?_
  constructor
  · exact fun h => ofRest?_of_begins (begins_of_ofRest? h).of_stem
  · exact fun h => ofRest?_of_begins (begins_of_ofRest? h).stem

theorem ofRest?_congr {other : List Char} (h : stem other = stem cs) :
    ofRest? other = ofRest? cs := by
  rw [← ofRest?_stem other, h, ofRest?_stem]

end Placeholder

namespace Piece

/-- The piece with braces, if it is a placeholder. -/
def brace : Piece → Piece
  | literal c => literal c
  | placeholder p => placeholder ⟨p.name, true⟩

@[simp] theorem name?_brace (piece : Piece) : piece.brace.name? = piece.name? := by
  cases piece <;> rfl

@[simp] theorem fill_brace (scope : Dict) (piece : Piece) :
    piece.brace.fill scope = piece.fill scope := by
  cases piece <;> rfl

@[simp] theorem brace_brace (piece : Piece) : piece.brace.brace = piece.brace := by
  cases piece <;> rfl

end Piece

namespace Template

/-- The values that write each of the names as a placeholder with braces. -/
def bracesFor (names : List String) : Dict :=
  Dict.ofList (names.map fun n => (n, "$\x7b" ++ n ++ "\x7d"))

/-- The template with braces around the name of every placeholder. -/
def braced (template : String) : String := fill template (bracesFor (placeholders template))

theorem get?_bracesFor {names : List String} {n : String} (h : n ∈ names) :
    (bracesFor names).get? n = some ("$\x7b" ++ n ++ "\x7d") := by
  rw [bracesFor, Dict.get?_ofList, ← List.map_reverse]
  -- All pairs of a name are the same, so it does not matter which one is found.
  have hmem : n ∈ names.reverse := List.mem_reverse.mpr h
  generalize names.reverse = ns at hmem
  induction ns with
  | nil => exact absurd hmem List.not_mem_nil
  | cons m ns ih =>
      rw [List.map_cons, Dict.lookup_cons]
      by_cases hn : n = m
      · rw [if_pos hn, hn]
      · rw [if_neg hn]
        exact ih ((List.mem_cons.mp hmem).resolve_left hn)

/-- Filling in with names in braces spells out the pieces with braces. -/
theorem flatMap_fill_braces {scope : Dict} {ps : List Piece}
    (h : ∀ n ∈ ps.filterMap Piece.name?, scope.get? n = some ("$\x7b" ++ n ++ "\x7d")) :
    ps.flatMap (Piece.fill scope) = (ps.map Piece.brace).flatMap Piece.spelling := by
  rw [List.flatMap_map]
  refine List.flatMap_congr fun piece hpiece => ?_
  cases piece with
  | literal c => rfl
  | placeholder p =>
      have hvalue := h _ (List.mem_filterMap.mpr ⟨_, hpiece, rfl⟩)
      simp only [Piece.fill, hvalue, Option.getD_some, String.toList_append, String.toList_ofList]
      rfl

/-- Braces change nothing before the first dollar sign. -/
theorem stem_brace (ps : List Piece) :
    stem ((ps.map Piece.brace).flatMap Piece.spelling) = stem (ps.flatMap Piece.spelling) := by
  induction ps with
  | nil => rfl
  | cons piece ps ih =>
      rw [List.map_cons, List.flatMap_cons, List.flatMap_cons]
      cases piece with
      | placeholder p => rfl
      | literal c =>
          by_cases hc : c = '$'
          · subst hc
            rfl
          · calc stem (c :: (ps.map Piece.brace).flatMap Piece.spelling)
              _ = c :: stem (ps.flatMap Piece.spelling) := by rw [stem_cons hc, ih]
              _ = stem (c :: ps.flatMap Piece.spelling) := (stem_cons hc _).symm

/-- A placeholder with braces is read as such, whatever follows it. -/
theorem pieces_braced_append {name : List Char} (h : IsWord name) (rest : List Char) :
    pieces (Placeholder.spelling ⟨name, true⟩ ++ rest) =
      .placeholder ⟨name, true⟩ :: pieces rest := by
  have hspelling : Placeholder.spelling ⟨name, true⟩ ++ rest =
      '$' :: '{' :: (name ++ '}' :: rest) := by
    simp only [Placeholder.spelling, Placeholder.body, if_true, List.cons_append, List.append_assoc,
      List.nil_append]
  have hfound : Placeholder.ofRest? ('{' :: (name ++ '}' :: rest)) = some ⟨name, true⟩ :=
    Placeholder.ofRest?_of_begins (.braced h)
  have hdrop : ('{' :: (name ++ '}' :: rest)).drop
      (Placeholder.body ⟨name, true⟩).length = rest := by
    have hbody : '{' :: (name ++ '}' :: rest) = Placeholder.body ⟨name, true⟩ ++ rest :=
      (List.cons.inj hspelling).2.symm
    rw [hbody, List.drop_left]
  rw [hspelling, pieces, if_pos rfl]
  simp only [hfound, hdrop]

/-- A character that begins no placeholder is read as itself. -/
theorem pieces_literal_append {c : Char} {rest : List Char}
    (h : c = '$' → Placeholder.ofRest? rest = none) :
    pieces ((Piece.literal c).spelling ++ rest) = .literal c :: pieces rest := by
  rw [Piece.spelling, List.singleton_append, pieces]
  by_cases hc : c = '$'
  · rw [if_pos hc, h hc]
  · rw [if_neg hc]

/-- The scanner reads back what was written with braces. -/
theorem pieces_brace (cs : List Char) :
    pieces (((pieces cs).map Piece.brace).flatMap Piece.spelling) =
      (pieces cs).map Piece.brace := by
  fun_induction pieces cs with
  | case1 => rw [List.map_nil, List.flatMap_nil, pieces]
  | case2 r p hp ih =>
      -- With a brace behind its name, the placeholder is read without regard to what follows.
      have hname : IsWord p.name := (Placeholder.begins_of_ofRest? hp).isWord
      rw [List.map_cons, List.flatMap_cons]
      exact (pieces_braced_append hname _).trans (congrArg _ ih)
  | case3 r hr ih =>
      -- The dollar sign was none of a placeholder, and what decides that stays.
      have hnone : Placeholder.ofRest? (((pieces r).map Piece.brace).flatMap Piece.spelling) =
          none := by
        rw [Placeholder.ofRest?_congr (stem_brace (pieces r)), flatten_spelling_pieces, hr]
      rw [List.map_cons, List.flatMap_cons]
      exact (pieces_literal_append fun _ => hnone).trans (congrArg _ ih)
  | case4 c r hc ih =>
      rw [List.map_cons, List.flatMap_cons]
      exact (pieces_literal_append fun h => absurd h hc).trans (congrArg _ ih)

theorem toList_braced (template : String) :
    (braced template).toList =
      ((pieces template.toList).map Piece.brace).flatMap Piece.spelling := by
  rw [braced, fill, String.toList_ofList]
  exact flatMap_fill_braces fun n hn => get?_bracesFor hn

/-- A template with braces has the pieces of the template, with braces. -/
theorem pieces_toList_braced (template : String) :
    pieces (braced template).toList = (pieces template.toList).map Piece.brace := by
  rw [toList_braced, pieces_brace]

/-- Braces around the names of a template make no difference: it asks for the same names in the
same order, comes to the same text in every scope, and writing the braces again changes nothing.
Whatever scope has the names in braces as their values writes them. -/
theorem fill_braced (template : String) :
    placeholders (braced template) = placeholders template ∧
    (∀ scope, fill (braced template) scope = fill template scope) ∧
    braced (braced template) = braced template ∧
    ∀ scope, (∀ n ∈ placeholders template, scope.get? n = some ("$\x7b" ++ n ++ "\x7d")) →
      fill template scope = braced template := by
  have hnames : placeholders (braced template) = placeholders template := by
    rw [placeholders, pieces_toList_braced, List.filterMap_map, placeholders]
    exact List.filterMap_congr fun piece _ => piece.name?_brace
  refine ⟨hnames, fun scope => ?_, ?_, fun scope hscope => ?_⟩
  · rw [fill, pieces_toList_braced, List.flatMap_map, fill]
    exact congrArg _ (List.flatMap_congr fun piece _ => piece.fill_brace scope)
  · rw [← String.toList_inj, toList_braced, pieces_toList_braced, List.map_map, toList_braced]
    exact congrArg _ (List.map_congr_left fun piece _ => piece.brace_brace)
  · refine fill_congr fun n hn => ?_
    rw [hscope n hn, get?_bracesFor hn]

end Template

end EnvProfiles
