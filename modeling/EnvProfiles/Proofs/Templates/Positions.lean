import EnvProfiles.Template
import Mathlib.Data.List.Basic

/-!
# Placeholders by Position

Where the placeholders of a template stand, told from the template alone. A
dollar sign is live if a name follows it, or a name in braces; whether it is can
be seen at its own position, whatever stands before it. The scanner works from
the left instead, and goes on behind each placeholder that it finds. Both come
to the same because nothing inside a placeholder is a dollar sign: what the
scanner passes over cannot be live.

So a template has a list of sites, in order and apart from each other, and is
filled in by putting a value in place of each site and keeping everything else.
The list is the only one with an entry for every placeholder and no other, so it
is known without the scanner.

## Main definitions

* `IsWord`: A name of letters, digits and underscores.
* `Template.Live`: A dollar sign that begins a placeholder.
* `Placeholder.Begins`, `Template.StandsAt`: Which placeholder stands where.
* `Template.splice`: A text with stretches replaced.
* `Template.sitesFrom`: The sites that the scanner finds.

## Theorems

* `Placeholder.begins_iff`: What the scanner looks for at a dollar sign.
* `Placeholder.Begins.not_inside`: No placeholder stands inside another one.
* `Template.mem_sitesFrom`: The scanner finds all of them.
* `Template.splice_sitesFrom`: Filling in is replacing the sites.
* `Template.fill_by_positions`: All of this about a template.
-/

namespace EnvProfiles

/-- A letter or digit of ASCII, or an underscore. -/
def IsWordChar (c : Char) : Prop :=
  'a' ≤ c ∧ c ≤ 'z' ∨ 'A' ≤ c ∧ c ≤ 'Z' ∨ '0' ≤ c ∧ c ≤ '9' ∨ c = '_'

/-- One or more letters, digits and underscores. -/
structure IsWord (word : List Char) : Prop where
  ne_nil : word ≠ []
  chars : ∀ c ∈ word, IsWordChar c

theorem isNameChar_iff {c : Char} : isNameChar c = true ↔ IsWordChar c := by
  have hupper : c.isUpper = true ↔ 'A' ≤ c ∧ c ≤ 'Z' := decide_eq_true_iff
  have hlower : c.isLower = true ↔ 'a' ≤ c ∧ c ≤ 'z' :=
    Bool.and_eq_true_iff.trans (and_congr decide_eq_true_iff decide_eq_true_iff)
  have hdigit : c.isDigit = true ↔ '0' ≤ c ∧ c ≤ '9' :=
    Bool.and_eq_true_iff.trans (and_congr decide_eq_true_iff decide_eq_true_iff)
  change (((c.isUpper || c.isLower) || c.isDigit) || c == '_') = true ↔ _
  simp only [IsWordChar, Bool.or_eq_true, hupper, hlower, hdigit, beq_iff_eq]
  constructor
  · rintro (((h | h) | h) | h)
    · exact .inr (.inl h)
    · exact .inl h
    · exact .inr (.inr (.inl h))
    · exact .inr (.inr (.inr h))
  · rintro (h | h | h | h)
    · exact .inl (.inl (.inr h))
    · exact .inl (.inl (.inl h))
    · exact .inl (.inr h)
    · exact .inr h

/-- A dollar sign is no part of a name. -/
theorem IsWordChar.ne_dollar {c : Char} (h : IsWordChar c) : c ≠ '$' := by
  rintro rfl
  exact absurd (isNameChar_iff.mpr h) (by decide)

/-- What a name is read from: a word, up to a character that belongs to no word. -/
theorem takeWhile_word {word rest : List Char} (hword : ∀ c ∈ word, IsWordChar c)
    (hrest : ∀ c ∈ rest.head?, ¬ IsWordChar c) :
    (word ++ rest).takeWhile isNameChar = word ∧ (word ++ rest).dropWhile isNameChar = rest := by
  have hall : ∀ c ∈ word, isNameChar c = true := fun c hc => isNameChar_iff.mpr (hword c hc)
  rw [List.takeWhile_append_of_pos hall, List.dropWhile_append_of_pos hall]
  cases rest with
  | nil => simp only [List.takeWhile_nil, List.dropWhile_nil, List.append_nil, and_self]
  | cons c rest =>
      have hc : isNameChar c = false :=
        Bool.eq_false_iff.mpr fun h => hrest c rfl (isNameChar_iff.mp h)
      simp only [List.takeWhile_cons, List.dropWhile_cons, hc, Bool.false_eq_true, if_false,
        List.append_nil, and_self]

namespace Placeholder

/-- A text begins with a placeholder. A name without braces ends where the word does. -/
inductive Begins : Placeholder → List Char → Prop
  | bare {name rest : List Char} : IsWord name → (∀ c ∈ rest.head?, ¬ IsWordChar c) →
    Begins ⟨name, false⟩ ('$' :: (name ++ rest))
  | braced {name rest : List Char} : IsWord name →
    Begins ⟨name, true⟩ ('$' :: '{' :: (name ++ '}' :: rest))

theorem isWord_takeWhile {cs word : List Char} {c : Char}
    (h : cs.takeWhile isNameChar = c :: word) : IsWord (c :: word) := by
  refine ⟨List.cons_ne_nil _ _, fun x hx => isNameChar_iff.mp ?_⟩
  rw [← h] at hx
  exact List.all_eq_true.mp List.all_takeWhile x hx

theorem begins_of_ofRest? {rest : List Char} {p : Placeholder} (h : ofRest? rest = some p) :
    p.Begins ('$' :: rest) := by
  unfold ofRest? at h
  split at h
  next c word hword =>
    cases h
    have hsplit := List.takeWhile_append_dropWhile (p := isNameChar) (l := rest)
    rw [hword] at hsplit
    rw [← hsplit]
    refine .bare (isWord_takeWhile hword) fun x hx hx' => ?_
    -- The name was taken as far as it goes.
    have hstop := List.head?_dropWhile_not isNameChar rest
    rw [Option.mem_def.mp hx] at hstop
    exact absurd (isNameChar_iff.mpr hx') (by simpa using hstop)
  next =>
    split at h
    next r _ =>
      split at h
      next c word tail hword hdrop =>
        cases h
        have hsplit := List.takeWhile_append_dropWhile (p := isNameChar) (l := r)
        rw [hword, hdrop] at hsplit
        rw [← hsplit]
        exact .braced (isWord_takeWhile hword)
      next => exact nomatch h
    next => exact nomatch h

theorem ofRest?_of_begins {rest : List Char} {p : Placeholder} (h : p.Begins ('$' :: rest)) :
    ofRest? rest = some p := by
  cases h with
  | @bare name rest hname hrest =>
      obtain ⟨c, word, rfl⟩ := List.exists_cons_of_ne_nil hname.ne_nil
      unfold ofRest?
      simp only [(takeWhile_word hname.chars hrest).1]
  | @braced name rest hname =>
      obtain ⟨c, word, rfl⟩ := List.exists_cons_of_ne_nil hname.ne_nil
      -- The closing brace ends the name. The opening one belongs to no name without braces.
      have hbrace : ∀ x ∈ ('}' :: rest).head?, ¬ IsWordChar x := by
        intro x hx hx'
        rw [← Option.some.inj hx] at hx'
        exact absurd (isNameChar_iff.mpr hx') (by decide)
      obtain ⟨htake, hdrop⟩ := takeWhile_word hname.chars hbrace
      have hopen : isNameChar '{' = false := by decide
      rw [ofRest?, List.takeWhile_cons_of_neg (by rw [hopen]; exact Bool.false_ne_true)]
      simp only [htake, hdrop]

/-- What the scanner looks for at a dollar sign. -/
theorem begins_iff {p : Placeholder} {cs : List Char} :
    p.Begins cs ↔ ∃ rest, cs = '$' :: rest ∧ ofRest? rest = some p := by
  constructor
  · intro h
    obtain ⟨rest, rfl⟩ : ∃ rest, cs = '$' :: rest := by
      cases h <;> exact ⟨_, rfl⟩
    exact ⟨rest, rfl, ofRest?_of_begins h⟩
  · rintro ⟨rest, rfl, h⟩
    exact begins_of_ofRest? h

namespace Begins

variable {p q : Placeholder} {cs : List Char}

theorem isWord (h : p.Begins cs) : IsWord p.name := by
  cases h <;> assumption

/-- The placeholder is spelled out where it begins. -/
theorem eq_spelling_append (h : p.Begins cs) :
    cs = p.spelling ++ cs.drop p.spelling.length := by
  obtain ⟨rest, rfl, hrest⟩ := begins_iff.mp h
  simp only [spelling, List.cons_append, List.length_cons, List.drop_succ_cons, List.cons.injEq,
    true_and]
  exact body_prefix_of_ofRest? hrest

theorem length_le (h : p.Begins cs) : p.spelling.length ≤ cs.length := by
  have hlength := congrArg List.length h.eq_spelling_append
  rw [List.length_append] at hlength
  omega

theorem dollar_not_mem_body (h : p.Begins cs) : '$' ∉ p.body := by
  have hname : '$' ∉ p.name := fun hc => (h.isWord.chars '$' hc).ne_dollar rfl
  unfold body
  split
  · simp only [List.cons_append, List.mem_cons, List.mem_append, List.not_mem_nil, or_false, not_or]
    exact ⟨by decide, hname, by decide⟩
  · exact hname

/-- No placeholder stands inside another one, since there is no dollar sign. -/
theorem not_inside (h : p.Begins cs) {k : Nat} (hk : 0 < k) (hlt : k < p.spelling.length) :
    ¬ q.Begins (cs.drop k) := by
  intro hq
  obtain ⟨rest, hdrop, _⟩ := begins_iff.mp hq
  -- Behind the dollar sign there is the body, in which there is no other one.
  obtain ⟨j, rfl⟩ : ∃ j, k = j + 1 := ⟨k - 1, by omega⟩
  have hbody : j < p.body.length := by
    simp only [spelling, List.length_cons] at hlt
    omega
  rw [h.eq_spelling_append, List.drop_append_of_le_length (by omega), spelling,
    List.drop_succ_cons, List.drop_eq_getElem_cons hbody, List.cons_append] at hdrop
  have hmem := List.getElem_mem hbody
  rw [(List.cons.inj hdrop).1] at hmem
  exact h.dollar_not_mem_body hmem

end Begins

end Placeholder

namespace Template

/-- What stands after a dollar sign makes it live: a character of a name, or a name in braces. -/
inductive Opens : List Char → Prop
  | bare {c : Char} (rest : List Char) : IsWordChar c → Opens (c :: rest)
  | braced {name : List Char} (rest : List Char) : IsWord name →
    Opens ('{' :: (name ++ '}' :: rest))

/-- There is a live dollar sign at a position. -/
def Live (cs : List Char) (i : Nat) : Prop := ∃ rest, cs.drop i = '$' :: rest ∧ Opens rest

/-- A placeholder stands at a position. -/
def StandsAt (cs : List Char) (i : Nat) (p : Placeholder) : Prop := p.Begins (cs.drop i)

/-- A live dollar sign is one at which a placeholder stands. -/
theorem live_iff {cs : List Char} {i : Nat} : Live cs i ↔ ∃ p, StandsAt cs i p := by
  constructor
  · rintro ⟨rest, hdrop, hopens⟩
    unfold StandsAt
    rw [hdrop]
    cases hopens with
    | @bare c rest hc =>
        -- The name goes on as far as there are characters of names.
        have htake := List.takeWhile_cons_of_pos (l := rest) (isNameChar_iff.mpr hc)
        have hfound : Placeholder.ofRest? (c :: rest) =
            some ⟨c :: rest.takeWhile isNameChar, false⟩ := by
          unfold Placeholder.ofRest?
          simp only [htake]
        exact ⟨_, Placeholder.begins_of_ofRest? hfound⟩
    | braced rest hname => exact ⟨_, .braced hname⟩
  · rintro ⟨p, hp⟩
    unfold StandsAt at hp
    generalize hdrop : cs.drop i = tail at hp
    cases hp with
    | @bare name rest hname _ =>
        obtain ⟨c, word, rfl⟩ := List.exists_cons_of_ne_nil hname.ne_nil
        exact ⟨_, hdrop, .bare _ (hname.chars c List.mem_cons_self)⟩
    | @braced name rest hname => exact ⟨_, hdrop, .braced rest hname⟩

/-- A text from a position on with stretches replaced, each given by where it begins, its length
and what takes its place. Everything between them is kept. -/
def splice (cs : List Char) (i : Nat) : List (Nat × Nat × List Char) → List Char
  | [] => cs.drop i
  | (start, size, value) :: r =>
    (cs.drop i).take (start - i) ++ value ++ splice cs (start + size) r

/-- The placeholders among pieces, with the positions where they begin. -/
def sitesFrom (i : Nat) : List Piece → List (Nat × Placeholder)
  | [] => []
  | .literal _ :: r => sitesFrom (i + 1) r
  | .placeholder p :: r => (i, p) :: sitesFrom (i + p.spelling.length) r

/-- The stretch of a placeholder, with the value of its name; a name without one is replaced by
nothing. -/
def stretch (scope : Dict) (site : Nat × Placeholder) : Nat × Nat × List Char :=
  (site.1, site.2.spelling.length, ((scope.get? (String.ofList site.2.name)).getD "").toList)

theorem sitesFrom_ge {i : Nat} {ps : List Piece} {site : Nat × Placeholder}
    (h : site ∈ sitesFrom i ps) : i ≤ site.1 := by
  induction ps generalizing i with
  | nil => exact absurd h List.not_mem_nil
  | cons piece ps ih =>
      cases piece with
      | literal c =>
          have hrest := ih h
          omega
      | placeholder p =>
          rcases List.mem_cons.mp h with rfl | h
          · exact Nat.le_refl _
          · have hrest := ih h
            omega

/-- The sites come one after the other. -/
theorem pairwise_sitesFrom (i : Nat) (ps : List Piece) :
    (sitesFrom i ps).Pairwise fun a b => a.1 + a.2.spelling.length ≤ b.1 := by
  induction ps generalizing i with
  | nil => exact .nil
  | cons piece ps ih =>
      cases piece with
      | literal c => exact ih (i + 1)
      | placeholder p => exact List.pairwise_cons.mpr ⟨fun _ h => sitesFrom_ge h, ih _⟩

/-- A character at which no placeholder begins can be left out of account. -/
theorem begins_drop_cons {c : Char} {r : List Char} {i j : Nat} {p : Placeholder}
    (h : ∀ q : Placeholder, ¬ q.Begins (c :: r)) :
    (i ≤ j ∧ p.Begins ((c :: r).drop (j - i))) ↔ i + 1 ≤ j ∧ p.Begins (r.drop (j - (i + 1))) := by
  by_cases hfirst : j ≤ i
  · have hzero : j - i = 0 := by omega
    rw [hzero, List.drop_zero]
    exact ⟨fun hp => absurd hp.2 (h p), fun hp => absurd hp.1 (by omega)⟩
  · have hrest : j - i = (j - (i + 1)) + 1 := by omega
    rw [hrest, List.drop_succ_cons]
    exact and_congr_left fun _ => by omega

/-- The scanner finds every placeholder, and nothing else. -/
theorem mem_sitesFrom (cs : List Char) (i j : Nat) (p : Placeholder) :
    (j, p) ∈ sitesFrom i (pieces cs) ↔ i ≤ j ∧ StandsAt cs (j - i) p := by
  unfold StandsAt
  fun_induction pieces cs generalizing i with
  | case1 =>
      rw [List.drop_nil, Placeholder.begins_iff]
      simp only [sitesFrom, List.not_mem_nil, reduceCtorEq, false_and, exists_const, and_false]
  | case2 r q hq ih =>
      have hbegins := Placeholder.begins_of_ofRest? hq
      have hafter : r.drop q.body.length = ('$' :: r).drop q.spelling.length := rfl
      rw [sitesFrom, List.mem_cons, ih, hafter, List.drop_drop]
      constructor
      · rintro (h | ⟨hle, h⟩)
        · obtain ⟨rfl, rfl⟩ := Prod.mk.inj h
          rw [Nat.sub_self]
          exact ⟨Nat.le_refl _, hbegins⟩
        · rw [show q.spelling.length + (j - (i + q.spelling.length)) = j - i by omega] at h
          exact ⟨by omega, h⟩
      · rintro ⟨hle, h⟩
        by_cases hfirst : j = i
        · subst hfirst
          rw [Nat.sub_self, List.drop_zero, Placeholder.begins_iff] at h
          obtain ⟨rest, hrest, hp⟩ := h
          rw [← (List.cons.inj hrest).2, hq] at hp
          exact .inl (congrArg (j, ·) (Option.some.inj hp).symm)
        · -- What is not the first placeholder is behind it, and not inside.
          have hbehind : q.spelling.length ≤ j - i := by
            by_contra hc
            exact hbegins.not_inside (by omega) (by omega) h
          refine .inr ⟨by omega, ?_⟩
          rw [show q.spelling.length + (j - (i + q.spelling.length)) = j - i by omega]
          exact h
  | case3 r hr ih =>
      rw [sitesFrom, ih, begins_drop_cons fun q hq => ?_]
      obtain ⟨rest, hrest, hq⟩ := Placeholder.begins_iff.mp hq
      rw [← (List.cons.inj hrest).2, hr] at hq
      cases hq
  | case4 c r hc ih =>
      -- No placeholder begins with another character than a dollar sign.
      rw [sitesFrom, ih, begins_drop_cons fun q hq => ?_]
      obtain ⟨rest, hrest, _⟩ := Placeholder.begins_iff.mp hq
      exact hc (List.cons.inj hrest).1

/-- A character before the first stretch is kept. -/
theorem splice_cons {cs r : List Char} {c : Char} {i : Nat}
    {stretches : List (Nat × Nat × List Char)}
    (h : cs.drop i = c :: r) (hall : ∀ s ∈ stretches, i + 1 ≤ s.1) :
    splice cs i stretches = c :: splice cs (i + 1) stretches := by
  have hrest : cs.drop (i + 1) = r := by rw [← List.tail_drop, h, List.tail_cons]
  cases stretches with
  | nil => rw [splice, splice, h, hrest]
  | cons s stretches =>
      obtain ⟨start, size, value⟩ := s
      have hstart : i + 1 ≤ start := hall _ List.mem_cons_self
      -- The character belongs to what is kept before the first stretch.
      have hgap : start - i = (start - (i + 1)) + 1 := by omega
      simp only [splice, h, hrest, hgap, List.take_succ_cons, List.cons_append]

/-- Filling in is putting values in place of the sites, wherever in a text the pieces stand. -/
theorem splice_sitesFrom (scope : Dict) {cs : List Char} {i : Nat} {ps : List Piece}
    (h : cs.drop i = ps.flatMap Piece.spelling) :
    splice cs i ((sitesFrom i ps).map (stretch scope)) = ps.flatMap (Piece.fill scope) := by
  induction ps generalizing i with
  | nil => exact h
  | cons piece ps ih =>
      rw [List.flatMap_cons] at h
      cases piece with
      | literal c =>
          have hrest : cs.drop (i + 1) = ps.flatMap Piece.spelling := by
            rw [← List.tail_drop, h]
            rfl
          -- The sites of the other pieces come after this one.
          have hall : ∀ s ∈ (sitesFrom (i + 1) ps).map (stretch scope), i + 1 ≤ s.1 := by
            intro s hs
            obtain ⟨site, hsite, rfl⟩ := List.mem_map.mp hs
            exact sitesFrom_ge hsite
          rw [sitesFrom, splice_cons h hall, ih hrest]
          rfl
      | placeholder p =>
          have hrest : cs.drop (i + p.spelling.length) = ps.flatMap Piece.spelling := by
            rw [← List.drop_drop, h]
            exact List.drop_left
          have hfirst : splice cs i ((sitesFrom i (.placeholder p :: ps)).map (stretch scope)) =
              (Piece.placeholder p).fill scope ++
                splice cs (i + p.spelling.length)
                  ((sitesFrom (i + p.spelling.length) ps).map (stretch scope)) := by
            simp only [sitesFrom, List.map_cons, stretch, splice, Nat.sub_self, List.take_zero,
              List.nil_append, Piece.fill]
          rw [hfirst, ih hrest, List.flatMap_cons]

/-- The names that a template asks for are those of its sites. -/
theorem filterMap_name?_eq (i : Nat) (ps : List Piece) :
    ps.filterMap Piece.name? = (sitesFrom i ps).map fun site => String.ofList site.2.name := by
  induction ps generalizing i with
  | nil => rfl
  | cons piece ps ih =>
      cases piece with
      | literal c => exact ih (i + 1)
      | placeholder p => exact congrArg (String.ofList p.name :: ·) (ih (i + p.spelling.length))

/-- A template has sites, which are known without the scanner: one for each live dollar sign, in
order and apart from each other. It asks for the names of its sites, one after the other, and is
filled in by putting the value of its name in place of each site, with everything else kept. So
nothing counts but the values of the names that it asks for. -/
theorem fill_by_positions (template : String) :
    ∃ sites : List (Nat × Placeholder),
      (∀ i p, (i, p) ∈ sites ↔ StandsAt template.toList i p) ∧
      (∀ i, Live template.toList i ↔ ∃ p, (i, p) ∈ sites) ∧
      sites.Pairwise (fun a b => a.1 + a.2.spelling.length ≤ b.1) ∧
      placeholders template = sites.map (fun site => String.ofList site.2.name) ∧
      (∀ scope, fill template scope =
        String.ofList (splice template.toList 0 (sites.map (stretch scope)))) ∧
      ∀ scope other : Dict, (∀ n ∈ placeholders template, other.get? n = scope.get? n) →
        fill template other = fill template scope := by
  have hmem : ∀ i p, (i, p) ∈ sitesFrom 0 (pieces template.toList) ↔
      StandsAt template.toList i p := by
    intro i p
    rw [mem_sitesFrom, Nat.sub_zero]
    exact and_iff_right (Nat.zero_le i)
  refine ⟨sitesFrom 0 (pieces template.toList), hmem, fun i => ?_, pairwise_sitesFrom 0 _,
    filterMap_name?_eq 0 _, fun scope => ?_, fun scope other => fill_congr⟩
  · simp only [hmem]
    exact live_iff
  · have hpieces : template.toList.drop 0 = (pieces template.toList).flatMap Piece.spelling :=
      (flatten_spelling_pieces template.toList).symm
    rw [splice_sitesFrom scope hpieces, fill]

end Template

end EnvProfiles
