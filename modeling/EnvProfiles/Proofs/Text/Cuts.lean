import EnvProfiles.Text.Blank
import Mathlib.Data.List.Basic

/-!
# Cutting Texts

What the stretches are that a text is cut into. No stretch holds a character at
which the text is cut, two texts with such a character in between are cut apart
from each other, a text that is put together from stretches is cut into them
again, and the stretches of a text can be put together to that text.

## Theorems

* `cutAt_eq_singleton`: A text without such a character is one stretch.
* `cutAt_append_cons`: Two texts with such a character in between.
* `eq_false_of_mem_cutAt`: No stretch holds such a character.
* `splitAt_intercalate`, `intercalate_splitAt`: A text is cut where it was put
  together.
-/

namespace EnvProfiles

section Cut

variable {test : Char → Bool}

/-- There is a stretch, if only an empty one. -/
theorem cutAt_ne_nil (test : Char → Bool) (cs : List Char) : cutAt test cs ≠ [] := by
  cases cs with
  | nil => exact List.cons_ne_nil _ _
  | cons c cs =>
      rw [cutAt]
      split
      · exact List.cons_ne_nil _ _
      · split <;> exact List.cons_ne_nil _ _

theorem cutAt_cons_of_pos (test : Char → Bool) {c : Char} (h : test c = true) (cs : List Char) :
    cutAt test (c :: cs) = [] :: cutAt test cs := by
  rw [cutAt, if_pos h]

/-- A character at which the text is not cut joins the first stretch. -/
theorem cutAt_cons_of_neg (test : Char → Bool) {c : Char} (h : test c = false)
    {cs piece : List Char} {pieces : List (List Char)} (hcs : cutAt test cs = piece :: pieces) :
    cutAt test (c :: cs) = (c :: piece) :: pieces := by
  rw [cutAt, h, hcs]
  rfl

/-- A text without a character at which it is cut is one stretch. -/
theorem cutAt_eq_singleton {cs : List Char} (h : ∀ c ∈ cs, test c = false) :
    cutAt test cs = [cs] := by
  induction cs with
  | nil => rfl
  | cons c cs ih =>
      exact cutAt_cons_of_neg test (h c List.mem_cons_self)
        (ih fun c' hc' => h c' (List.mem_cons_of_mem _ hc'))

/-- Two texts with a character in between at which they are cut are cut apart from each other. -/
theorem cutAt_append_cons (test : Char → Bool) {c : Char} (h : test c = true)
    (before after : List Char) :
    cutAt test (before ++ c :: after) = cutAt test before ++ cutAt test after := by
  induction before with
  | nil => exact cutAt_cons_of_pos test h after
  | cons x before ih =>
      cases hx : test x with
      | true =>
          rw [List.cons_append, cutAt_cons_of_pos test hx, cutAt_cons_of_pos test hx, ih,
            List.cons_append]
      | false =>
          -- The character joins the first stretch, which is one of the text before.
          obtain ⟨piece, pieces, hbefore⟩ := List.exists_cons_of_ne_nil (cutAt_ne_nil test before)
          rw [List.cons_append, cutAt_cons_of_neg test hx hbefore, List.cons_append]
          rw [hbefore, List.cons_append] at ih
          exact cutAt_cons_of_neg test hx ih

/-- No stretch holds a character at which the text is cut. -/
theorem eq_false_of_mem_cutAt {cs piece : List Char} (h : piece ∈ cutAt test cs) {c : Char}
    (hc : c ∈ piece) : test c = false := by
  induction cs generalizing piece with
  | nil => exact absurd (List.mem_singleton.mp h ▸ hc) List.not_mem_nil
  | cons x cs ih =>
      cases hx : test x with
      | true =>
          rw [cutAt_cons_of_pos test hx] at h
          rcases List.mem_cons.mp h with rfl | h
          · exact absurd hc List.not_mem_nil
          · exact ih h hc
      | false =>
          -- Only the first stretch has become another one, by a character that does not cut.
          obtain ⟨first, rest, hcs⟩ := List.exists_cons_of_ne_nil (cutAt_ne_nil test cs)
          rw [cutAt_cons_of_neg test hx hcs] at h
          rw [hcs] at ih
          rcases List.mem_cons.mp h with rfl | h
          · rcases List.mem_cons.mp hc with rfl | hc
            · exact hx
            · exact ih List.mem_cons_self hc
          · exact ih (List.mem_cons_of_mem _ h) hc

end Cut

/-! ### Cutting at one character -/

theorem splitAt_of_not_mem {c : Char} {cs : List Char} (h : c ∉ cs) : splitAt c cs = [cs] :=
  cutAt_eq_singleton fun _ hx => beq_eq_false_iff_ne.mpr fun hxc => h (hxc ▸ hx)

theorem splitAt_append_cons (c : Char) (before after : List Char) :
    splitAt c (before ++ c :: after) = splitAt c before ++ splitAt c after :=
  cutAt_append_cons (· == c) (beq_self_eq_true c) before after

theorem not_mem_of_mem_splitAt {c : Char} {cs piece : List Char} (h : piece ∈ splitAt c cs) :
    c ∉ piece := by
  intro hc
  exact beq_eq_false_iff_ne.mp (eq_false_of_mem_cutAt h hc) rfl

/-- A text that is put together from stretches is cut into them again. -/
theorem splitAt_intercalate {c : Char} {pieces : List (List Char)} (hne : pieces ≠ [])
    (h : ∀ piece ∈ pieces, c ∉ piece) : splitAt c ([c].intercalate pieces) = pieces := by
  induction pieces with
  | nil => exact absurd rfl hne
  | cons piece pieces ih =>
      have hpiece := splitAt_of_not_mem (h piece List.mem_cons_self)
      cases pieces with
      | nil => rw [List.intercalate_singleton, hpiece]
      | cons next rest =>
          have hrest := ih (List.cons_ne_nil _ _) fun p hp => h p (List.mem_cons_of_mem _ hp)
          rw [List.intercalate_cons_cons, List.append_assoc, List.singleton_append,
            splitAt_append_cons, hpiece, hrest, List.singleton_append]

/-- The stretches of a text, put together, are the text again. -/
theorem intercalate_splitAt (c : Char) (cs : List Char) : [c].intercalate (splitAt c cs) = cs := by
  induction cs with
  | nil => rfl
  | cons x cs ih =>
      obtain ⟨piece, pieces, hcs⟩ := List.exists_cons_of_ne_nil (cutAt_ne_nil (· == c) cs)
      rw [splitAt, hcs] at ih
      cases hx : x == c with
      | true =>
          rw [splitAt, cutAt_cons_of_pos (· == c) hx, hcs, List.intercalate_cons_cons, ih,
            beq_iff_eq.mp hx, List.nil_append, List.singleton_append]
      | false =>
          rw [splitAt, cutAt_cons_of_neg (· == c) hx hcs]
          cases pieces with
          | nil => rw [List.intercalate_singleton] at ih ⊢; rw [ih]
          | cons next rest =>
              rw [List.intercalate_cons_cons] at ih ⊢
              rw [List.cons_append, List.cons_append, ih]

end EnvProfiles
