import EnvProfiles.Proofs.Listing
import EnvProfiles.Proofs.Overlay
import Mathlib.Data.Finset.Card

/-!
# Building Dictionaries

A dictionary is built by collecting pairs, by setting names, and by laying over it
a dictionary that was built in the same ways. Of such a history only the row of
pairs matters that were written in its course, one after the other: however a
dictionary was built, it is the one that this row is collected into
(`build_eq_ofList`). What is listed, found and counted in it can be read off the
row.

Laying dictionaries over each other is associative, but the order counts, since
the upper one wins. Two dictionaries may be laid over a third in either order
exactly if they agree on the names that both of them have; what the third one
says makes no difference to that.

## Main definitions

* `Construction`: How a dictionary is built.
* `Construction.build`: The dictionary.
* `Construction.written`: The pairs that are written in the course of it.
* `LastWritten`: What was written for a name last.

## Theorems

* `build_eq_ofList`: A dictionary is what all that was written is collected into.
* `merge_assoc`, `merge_self`, `mem_names_merge`: Laying over.
* `merge_comm_iff`: When the order of two overlays makes no difference.
* `building_laws`: What is known of a dictionary from how it was built.
-/

namespace EnvProfiles

/-- How a dictionary is built. -/
inductive Construction where
  /-- There is nothing in it. -/
  | empty
  /-- Pairs are collected. -/
  | collect (pairs : List (String × String))
  /-- A name is set. -/
  | insert (base : Construction) (name value : String)
  /-- Another one is laid over it. -/
  | merge (base upper : Construction)
deriving DecidableEq, Repr

/-- What was written for a name last. -/
def LastWritten (pairs : List (String × String)) (name value : String) : Prop :=
  ∃ before after, pairs = before ++ (name, value) :: after ∧ ∀ e ∈ after, e.1 ≠ name

/-! ### Names and sizes -/

namespace Dict

/-- The names are listed in ascending order, each of them once. -/
theorem names_ascending (d : Dict) : d.names.Pairwise (· < ·) := List.pairwise_map.mpr d.ascending

theorem names_nodup (d : Dict) : d.names.Nodup := by
  refine d.names_ascending.imp fun {a b} (hlt : a < b) heq => ?_
  exact String.lt_irrefl b (heq ▸ hlt)

/-- What is listed is what is found. -/
theorem mem_toList_iff {d : Dict} {name value : String} :
    (name, value) ∈ d.toList ↔ d.get? name = some value :=
  (lookup_eq_some_iff_mem d.names_nodup).symm

/-- The names of what was collected are those of the pairs. -/
theorem mem_names_ofList {pairs : List (String × String)} {name : String} :
    name ∈ (ofList pairs).names ↔ name ∈ pairs.map Prod.fst := by
  rw [← isSome_get?, get?_ofList, List.lookup_isSome_iff, List.mem_map]
  constructor
  · rintro ⟨e, he, hname⟩
    exact ⟨e, List.mem_reverse.mp he, (beq_iff_eq.mp hname).symm⟩
  · rintro ⟨e, he, hname⟩
    exact ⟨e, List.mem_reverse.mpr he, beq_iff_eq.mpr hname.symm⟩

/-- Each name counts once, however often it was written. -/
theorem size_ofList (pairs : List (String × String)) :
    (ofList pairs).size = (pairs.map Prod.fst).toFinset.card := by
  have hnames : (ofList pairs).names.toFinset = (pairs.map Prod.fst).toFinset := by
    ext name
    rw [List.mem_toFinset, List.mem_toFinset, mem_names_ofList]
  rw [← hnames, List.toFinset_card_of_nodup (ofList pairs).names_nodup, names, List.length_map,
    size]

/-! ### Laying over -/

theorem merge_assoc (a b c : Dict) : (a.merge b).merge c = a.merge (b.merge c) := by
  refine ext_get? fun name => ?_
  simp [Option.or_assoc]

theorem merge_self (a : Dict) : a.merge a = a := by
  refine ext_get? fun name => ?_
  simp

theorem mem_names_merge {a b : Dict} {name : String} :
    name ∈ (a.merge b).names ↔ name ∈ a.names ∨ name ∈ b.names := by
  rw [← isSome_get?, ← isSome_get?, ← isSome_get?, get?_merge, Option.isSome_or, Bool.or_eq_true,
    or_comm]

/-- The upper dictionary wins. -/
theorem get?_merge_of_mem {a b : Dict} {name : String} (h : name ∈ b.names) :
    (a.merge b).get? name = b.get? name := by
  obtain ⟨value, hvalue⟩ := mem_names_iff.mp h
  simp [hvalue]

/-- Elsewhere the lower one is seen. -/
theorem get?_merge_of_not_mem {a b : Dict} {name : String} (h : name ∉ b.names) :
    (a.merge b).get? name = a.get? name := by
  simp [get?_eq_none_iff.mpr h]

/-- Two overlays may be exchanged exactly if they agree on the names that both of them have. -/
theorem merge_comm_iff {a b c : Dict} :
    (a.merge b).merge c = (a.merge c).merge b ↔
      ∀ name, name ∈ b.names → name ∈ c.names → b.get? name = c.get? name := by
  constructor
  · intro h name hb hc
    -- On a name of both, each order shows the value of the one that comes last.
    have hname : ((a.merge b).merge c).get? name = ((a.merge c).merge b).get? name := by rw [h]
    rw [get?_merge_of_mem hc, get?_merge_of_mem hb] at hname
    exact hname.symm
  · intro h
    -- Elsewhere at most one of the two has the name, and it is seen in either order.
    refine ext_get? fun name => ?_
    by_cases hb : name ∈ b.names
    · by_cases hc : name ∈ c.names
      · rw [get?_merge_of_mem hc, get?_merge_of_mem hb, h name hb hc]
      · rw [get?_merge_of_not_mem hc, get?_merge_of_mem hb, get?_merge_of_mem hb]
    · by_cases hc : name ∈ c.names
      · rw [get?_merge_of_mem hc, get?_merge_of_not_mem hb, get?_merge_of_mem hc]
      · rw [get?_merge_of_not_mem hc, get?_merge_of_not_mem hb, get?_merge_of_not_mem hb,
          get?_merge_of_not_mem hc]

/-- To collect more pairs is to lay them over. -/
theorem ofList_append (pairs more : List (String × String)) :
    ofList (pairs ++ more) = (ofList pairs).merge (ofList more) := by
  refine ext_get? fun name => ?_
  simp [get?_ofList, List.lookup_append]

end Dict

/-! ### Building -/

namespace Construction

/-- The dictionary that is built. -/
def build : Construction → Dict
  | empty => .empty
  | collect pairs => .ofList pairs
  | insert base name value => base.build.insert name value
  | merge base upper => base.build.merge upper.build

/-- The pairs that are written, one after the other. To lay a dictionary over another is to write
over it whatever has been written into the upper one. -/
def written : Construction → List (String × String)
  | empty => []
  | collect pairs => pairs
  | insert base name value => base.written ++ [(name, value)]
  | merge base upper => base.written ++ upper.written

/-- However a dictionary was built, it is what all that was written is collected into. -/
theorem build_eq_ofList (c : Construction) : c.build = .ofList c.written := by
  induction c with
  | empty => rfl
  | collect pairs => rfl
  | insert base name value ih =>
      -- To set a name is to lay one pair over what there is.
      rw [build, ih, written, Dict.ofList_append]
      rfl
  | merge base upper ihBase ihUpper => rw [build, ihBase, ihUpper, written, Dict.ofList_append]

/-- However a dictionary was built, it lists the names that were written in ascending order of their
code points, each of them once, with the value that was written last, which is also what is found;
and it is as large as the number of different names that were written. Laying over is associative,
changes nothing if a dictionary is laid over itself, joins the names, and lets the upper dictionary
win. Two dictionaries may be laid over another in either order exactly if they agree on the names
that both of them have. -/
theorem building_laws :
    (∀ c : Construction,
      (c.build.toList.map Prod.fst).Pairwise (· < ·) ∧
      (∀ name, name ∈ c.build.toList.map Prod.fst ↔ name ∈ c.written.map Prod.fst) ∧
      (∀ name value, (name, value) ∈ c.build.toList ↔ LastWritten c.written name value) ∧
      (∀ name value, c.build.get? name = some value ↔ LastWritten c.written name value) ∧
      c.build.size = (c.written.map Prod.fst).toFinset.card) ∧
    (∀ a b c : Dict, (a.merge b).merge c = a.merge (b.merge c)) ∧
    (∀ a : Dict, a.merge a = a) ∧
    (∀ (a b : Dict) (name : String),
      (name ∈ (a.merge b).names ↔ name ∈ a.names ∨ name ∈ b.names) ∧
      (a.merge b).get? name = if name ∈ b.names then b.get? name else a.get? name) ∧
    ∀ a b c : Dict, (a.merge b).merge c = (a.merge c).merge b ↔
      ∀ name, name ∈ b.names → name ∈ c.names → b.get? name = c.get? name := by
  refine ⟨fun c => ?_, Dict.merge_assoc, Dict.merge_self, fun a b name => ?_,
    fun a b c => Dict.merge_comm_iff⟩
  · -- Whatever was built is what collecting the written pairs in one go would have come to.
    have hfound : ∀ name value,
        c.build.get? name = some value ↔ LastWritten c.written name value := by
      intro name value
      rw [build_eq_ofList]
      exact Dict.get?_ofList_eq_some_iff
    refine ⟨c.build.names_ascending, fun name => ?_, fun name value => ?_, hfound, ?_⟩
    · rw [build_eq_ofList]
      exact Dict.mem_names_ofList
    · rw [Dict.mem_toList_iff, hfound]
    · rw [build_eq_ofList, Dict.size_ofList]
  · refine ⟨Dict.mem_names_merge, ?_⟩
    split
    next h => exact Dict.get?_merge_of_mem h
    next h => exact Dict.get?_merge_of_not_mem h

/-- A name that is written twice keeps its place in the order, and its last value. -/
example :
    (insert (merge (collect [("B", "1"), ("A", "2")]) (collect [("B", "3")])) "C" "4").build.toList
    = [("A", "2"), ("B", "3"), ("C", "4")] := by decide

end Construction

end EnvProfiles
