import EnvProfiles.Dict
import Mathlib.Data.List.Sort

/-!
# Listings

Lists of pairs in which no name comes twice. It makes no difference then from
which end such a list is read, what a look-up finds is what is listed, and once
the pairs have been put in order of their names, that order is strict. A strict
order leaves a set of pairs one list only.

## Theorems

* `lookup_eq_some_iff_mem`: A look-up finds what is listed.
* `ascending_mergeSort`: Pairs in order of their names, none of which comes
  twice.
* `eq_of_ascending`: What is listed determines a list in strict order.
-/

namespace EnvProfiles

/-- If no name comes twice, a look-up finds what is listed. -/
theorem lookup_eq_some_iff_mem {α β : Type} [BEq α] [LawfulBEq α] {l : List (α × β)}
    (h : (l.map Prod.fst).Nodup) {a : α} {b : β} : l.lookup a = some b ↔ (a, b) ∈ l := by
  rw [List.lookup_eq_some_iff]
  constructor
  · rintro ⟨before, after, rfl, _⟩
    exact List.mem_append_right _ List.mem_cons_self
  · intro hmem
    obtain ⟨before, after, rfl⟩ := List.append_of_mem hmem
    refine ⟨before, after, rfl, fun e he => ?_⟩
    rw [List.map_append, List.map_cons] at h
    have hdisjoint := List.disjoint_of_nodup_append h (List.mem_map_of_mem he)
    exact bne_iff_ne.mpr fun hc => hdisjoint (hc ▸ List.mem_cons_self)

/-- Pairs that are put in order of their names, none of which comes twice, are in strict order. -/
theorem ascending_mergeSort {β : Type} {l : List (String × β)} (h : (l.map Prod.fst).Nodup) :
    (l.mergeSort fun a b => a.1 ≤ b.1).Pairwise fun a b => a.1 < b.1 := by
  have htrans : ∀ a b c : String × β, decide (a.1 ≤ b.1) = true → decide (b.1 ≤ c.1) = true →
      decide (a.1 ≤ c.1) = true := fun a b c hab hbc =>
    decide_eq_true (String.le_trans (of_decide_eq_true hab) (of_decide_eq_true hbc))
  have htotal : ∀ a b : String × β, (decide (a.1 ≤ b.1) || decide (b.1 ≤ a.1)) = true := by
    intro a b
    rw [Bool.or_eq_true, decide_eq_true_eq, decide_eq_true_eq]
    exact String.le_total a.1 b.1
  -- Each comes no later than the next, and no two have one name.
  have hle := List.pairwise_mergeSort htrans htotal l
  have hne : (l.mergeSort fun a b => a.1 ≤ b.1).Pairwise fun a b => a.1 ≠ b.1 :=
    List.pairwise_map.mp (((List.mergeSort_perm l _).map Prod.fst).nodup_iff.mpr h)
  refine (hle.and hne).imp fun {a b} hab => ?_
  by_cases hlt : a.1 < b.1
  · exact hlt
  · exact absurd (String.le_antisymm (of_decide_eq_true hab.1) (String.not_lt.mp hlt)) hab.2

/-- What is listed determines a list in strict order. -/
theorem eq_of_ascending {α : Type} (name : α → String) {l m : List α}
    (hl : l.Pairwise fun a b => name a < name b) (hm : m.Pairwise fun a b => name a < name b)
    (h : ∀ a, a ∈ l ↔ a ∈ m) : l = m := by
  have : Std.Irrefl fun a b : α => name a < name b := ⟨fun a => String.lt_irrefl (name a)⟩
  have : Std.Antisymm fun a b : α => name a < name b :=
    ⟨fun a b hab hba => absurd hba (String.lt_asymm hab)⟩
  exact hl.eq_of_mem_iff hm h

end EnvProfiles
