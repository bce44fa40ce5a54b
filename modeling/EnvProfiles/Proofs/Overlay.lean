import EnvProfiles.Dict

/-!
# Overlays

What is found in a dictionary that others have been laid over, one after the
other. A look-up goes through them from the top, so it reads them in the reverse
of the order in which they were laid down, and the first that has the name
answers. `get?_foldl` says so for a row of any length, whatever is laid down at
each step; it is what turns every "later ones win" into a search that stops at
the first hit.

## Theorems

* `mem_names_iff`: The names are those that have a value.
* `get?_ofList_eq_some_iff`: Of collected pairs, the last one of a name has its
  value.
* `get?_foldl`: A look-up in a row of overlays is a search from the top.
-/

namespace EnvProfiles

namespace Dict

/-- The names are those that have a value. -/
theorem mem_names_iff {d : Dict} {name : String} :
    name ∈ d.names ↔ ∃ value, d.get? name = some value := by
  constructor
  · intro h
    cases hget : d.get? name with
    | some value => exact ⟨value, rfl⟩
    | none =>
        obtain ⟨e, he, rfl⟩ := List.mem_map.mp h
        exact absurd rfl (bne_iff_ne.mp (List.lookup_eq_none_iff.mp hget e he))
  · rintro ⟨value, h⟩
    exact mem_names_of_get? h

theorem isSome_get? {d : Dict} {name : String} : (d.get? name).isSome ↔ name ∈ d.names := by
  rw [Option.isSome_iff_exists, mem_names_iff]

theorem get?_eq_none_iff {d : Dict} {name : String} : d.get? name = none ↔ name ∉ d.names := by
  rw [← isSome_get?, Option.not_isSome_iff_eq_none]

/-- A value is that of the last pair of its name. -/
theorem get?_ofList_eq_some_iff {pairs : List (String × String)} {name value : String} :
    (ofList pairs).get? name = some value ↔
      ∃ before after, pairs = before ++ (name, value) :: after ∧ ∀ e ∈ after, e.1 ≠ name := by
  -- Pairs are looked up in reverse, where the last one comes first.
  rw [get?_ofList, List.lookup_eq_some_iff]
  constructor
  · rintro ⟨after, before, hpairs, hafter⟩
    refine ⟨before.reverse, after.reverse, ?_, fun e he => ?_⟩
    · rw [List.reverse_eq_iff.mp hpairs, List.reverse_append, List.reverse_cons,
        List.append_assoc, List.singleton_append]
    · exact (bne_iff_ne.mp (hafter e (List.mem_reverse.mp he))).symm
  · rintro ⟨before, after, rfl, hafter⟩
    refine ⟨after.reverse, before.reverse, ?_, fun e he => ?_⟩
    · rw [List.reverse_append, List.reverse_cons, List.append_assoc, List.singleton_append]
    · exact bne_iff_ne.mpr (hafter e (List.mem_reverse.mp he)).symm

/-- If every step of a row lays something over what there was, then a look-up goes through the row
from its end, and comes to what there was at first if nothing that was laid over it has the name. -/
theorem get?_foldl {α : Type} {step : Dict → α → Dict} {laid : α → Option String} {name : String}
    (hstep : ∀ d a, (step d a).get? name = (laid a).or (d.get? name)) (l : List α) (d : Dict) :
    (l.foldl step d).get? name = (l.reverse.findSome? laid).or (d.get? name) := by
  induction l generalizing d with
  | nil => rfl
  | cons a l ih =>
      rw [List.foldl_cons, ih, hstep, List.reverse_cons, List.findSome?_append,
        List.findSome?_singleton, Option.or_assoc]

end Dict

end EnvProfiles
