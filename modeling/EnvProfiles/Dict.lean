/-!
# Dictionaries of Text

A finite map from text to text that is listed in one order only.

Everything this library keeps by name — the variables of a profile, the
profiles of a store, the variables of a process — is a set of pairs in which
each name occurs once, and everything it prints from them is printed in
ascending order of the names. Both facts are part of the type here: a
dictionary is a list of pairs in strictly ascending order of the names, where
text is ordered by code points. Two dictionaries that answer every look-up
alike are therefore equal (`Dict.ext_get?`), and no statement about them needs
an equivalence of its own.

## Main definitions

* `Dict`: Pairs in strictly ascending order of their names.
* `Dict.get?`: The value of a name.
* `Dict.insert`: Sets a name, replacing the value it had.
* `Dict.erase`: Removes a name.
* `Dict.merge`: Overlays one dictionary with another.
* `Dict.ofList`: Collects pairs, of which the last one for a name counts.

## Theorems

* `get?_insert`, `get?_erase`, `get?_merge`: What each operation does to the
  look-ups.
* `ext_get?`: Look-ups determine a dictionary.
-/

namespace EnvProfiles

/-- Pairs in strictly ascending order of their names. -/
structure Dict where
  entries : List (String × String)
  ascending : entries.Pairwise fun a b => a.1 < b.1

namespace Dict

instance : DecidableEq Dict := fun a b =>
  decidable_of_iff (a.entries = b.entries)
    ⟨fun h => by cases a; cases b; simp_all only, fun h => h ▸ rfl⟩

instance : Repr Dict := ⟨fun d p => reprPrec d.entries p⟩

/-- The dictionary without a pair. -/
def empty : Dict := ⟨[], .nil⟩

instance : Inhabited Dict := ⟨empty⟩

instance : EmptyCollection Dict := ⟨empty⟩

/-- The pairs, in ascending order of the names. -/
def toList (d : Dict) : List (String × String) := d.entries

/-- The names, ascending. -/
def names (d : Dict) : List String := d.entries.map (·.1)

/-- How many names there are. -/
def size (d : Dict) : Nat := d.entries.length

/-- Whether there is no name at all. -/
def isEmpty (d : Dict) : Bool := d.entries.isEmpty

/-- The value of a name, if it has one. -/
def get? (d : Dict) (name : String) : Option String := d.entries.lookup name

/-- Whether a name has a value. -/
def contains (d : Dict) (name : String) : Bool := (d.get? name).isSome

/-- Puts a pair where its name belongs, in place of the pair of that name. -/
def place (name value : String) : List (String × String) → List (String × String)
  | [] => [(name, value)]
  | e :: r =>
    if name < e.1 then (name, value) :: e :: r
    else if name = e.1 then (name, value) :: r
    else e :: place name value r

/-- Text that is neither below nor equal to another is above it. -/
theorem lt_of_not_lt {a b : String} (h : ¬ a < b) (hne : a ≠ b) : b < a := by
  by_cases hlt : b < a
  · exact hlt
  · exact absurd (String.le_antisymm (String.not_lt.mp hlt) (String.not_lt.mp h)) hne

theorem mem_place {name value : String} {l : List (String × String)} {e : String × String}
    (h : e ∈ place name value l) : e = (name, value) ∨ e ∈ l := by
  induction l with
  | nil => simpa only [place, List.mem_cons, List.not_mem_nil, or_false] using h
  | cons x r ih =>
    simp only [place] at h
    split at h
    · simpa only [List.mem_cons] using h
    · split at h
      · rcases List.mem_cons.mp h with h | h
        · exact .inl h
        · exact .inr (List.mem_cons_of_mem _ h)
      · rcases List.mem_cons.mp h with h | h
        · exact .inr (h ▸ List.mem_cons_self)
        · exact (ih h).imp_right (List.mem_cons_of_mem _)

/-- Placing a pair keeps the order strict. -/
theorem ascending_place (name value : String) {l : List (String × String)}
    (h : l.Pairwise fun a b => a.1 < b.1) :
    (place name value l).Pairwise fun a b => a.1 < b.1 := by
  induction l with
  | nil => exact List.pairwise_singleton _ _
  | cons x r ih =>
    have hx := (List.pairwise_cons.mp h).1
    have hr := (List.pairwise_cons.mp h).2
    simp only [place]
    split
    next hlt =>
      refine List.pairwise_cons.mpr ⟨fun e he => ?_, h⟩
      rcases List.mem_cons.mp he with he | he
      · exact he ▸ hlt
      · exact String.lt_trans hlt (hx e he)
    next hlt =>
      split
      next heq => exact List.pairwise_cons.mpr ⟨fun e he => heq ▸ hx e he, hr⟩
      next hne =>
        refine List.pairwise_cons.mpr ⟨fun e he => ?_, ih hr⟩
        rcases mem_place he with he | he
        · exact he ▸ lt_of_not_lt hlt hne
        · exact hx e he

/-- Sets a name, replacing the value it had. -/
def insert (d : Dict) (name value : String) : Dict :=
  ⟨place name value d.entries, ascending_place name value d.ascending⟩

/-- Removes a name; one that is absent is left absent. -/
def erase (d : Dict) (name : String) : Dict :=
  ⟨d.entries.filter fun e => e.1 != name, d.ascending.filter _⟩

/-- Overlays `d` with `upper`, whose values win. -/
def merge (d upper : Dict) : Dict :=
  upper.entries.foldl (fun acc e => acc.insert e.1 e.2) d

/-- Collects pairs; of several for one name the last one counts. -/
def ofList (pairs : List (String × String)) : Dict :=
  pairs.foldl (fun acc e => acc.insert e.1 e.2) empty

/-! ### Look-ups -/

@[simp] theorem get?_empty (name : String) : empty.get? name = none := rfl

/-- A look-up reads pairs from the front. -/
theorem lookup_cons {α β : Type} [BEq α] [LawfulBEq α] [DecidableEq α] (name : α) (e : α × β)
    (l : List (α × β)) : (e :: l).lookup name = if name = e.1 then some e.2 else l.lookup name := by
  obtain ⟨k, v⟩ := e
  by_cases h : name = k
  · simp only [h, List.lookup_cons_self, if_true]
  · rw [List.lookup_cons, beq_eq_false_iff_ne.mpr h, if_neg h]

/-- A list whose names all differ from a name has no value for it. -/
theorem lookup_eq_none {β : Type} {l : List (String × β)} {name : String}
    (h : ∀ e ∈ l, e.1 ≠ name) : l.lookup name = none := by
  induction l with
  | nil => rfl
  | cons x r ih =>
    rw [lookup_cons, if_neg fun hc => h x List.mem_cons_self hc.symm]
    exact ih fun e he => h e (List.mem_cons_of_mem _ he)

/-- A value that a look-up finds stands in the list. -/
theorem mem_of_lookup {β : Type} {l : List (String × β)} {name : String} {value : β}
    (h : l.lookup name = some value) : (name, value) ∈ l := by
  obtain ⟨before, after, rfl, _⟩ := List.lookup_eq_some_iff.mp h
  exact List.mem_append_right before List.mem_cons_self

/-- A name that has a value is among the names. -/
theorem mem_names_of_get? {d : Dict} {name value : String} (h : d.get? name = some value) :
    name ∈ d.names :=
  List.mem_map_of_mem (mem_of_lookup h)

theorem lookup_place (name value other : String) (l : List (String × String)) :
    (place name value l).lookup other = if other = name then some value else l.lookup other := by
  induction l with
  | nil => rw [place, lookup_cons]
  | cons x r ih =>
    rw [place]
    split
    next => rw [lookup_cons]
    next =>
      split
      next heq => rw [lookup_cons, lookup_cons, ← heq]; split <;> rfl
      next hne =>
        rw [lookup_cons, lookup_cons, ih]
        by_cases h : other = x.1
        · rw [if_pos h, if_neg (by rw [h]; exact fun hc => hne hc.symm), if_pos h]
        · rw [if_neg h, if_neg h]

/-- Setting a name changes the look-up of that name alone. -/
@[simp] theorem get?_insert (d : Dict) (name value other : String) :
    (d.insert name value).get? other = if other = name then some value else d.get? other :=
  lookup_place name value other d.entries

/-- Pairs of other names are found as before when those of a name are left out. -/
theorem lookup_filter {α β : Type} [BEq α] [LawfulBEq α] [DecidableEq α] (name other : α)
    (l : List (α × β)) :
    (l.filter fun e => e.1 != name).lookup other
      = if other = name then none else l.lookup other := by
  induction l with
  | nil => simp only [List.filter_nil, List.lookup_nil, ite_self]
  | cons x r ih =>
    by_cases hx : x.1 = name
    · rw [List.filter_cons_of_neg (by simp only [hx, bne_self_eq_false]; exact Bool.false_ne_true),
        ih, lookup_cons, hx]
      split <;> rfl
    · rw [List.filter_cons_of_pos (by simpa only [bne_iff_ne] using hx), lookup_cons, lookup_cons,
        ih]
      by_cases h : other = x.1
      · rw [if_pos h, if_neg (by rw [h]; exact hx), if_pos h]
      · rw [if_neg h, if_neg h]

/-- Removing a name changes the look-up of that name alone. -/
@[simp] theorem get?_erase (d : Dict) (name other : String) :
    (d.erase name).get? other = if other = name then none else d.get? other :=
  lookup_filter name other d.entries

/-- Inserting pairs one after the other lets the last pair of a name win. -/
theorem get?_foldl_insert (l : List (String × String)) (d : Dict) (name : String) :
    (l.foldl (fun acc e => acc.insert e.1 e.2) d).get? name
      = (l.reverse.lookup name).or (d.get? name) := by
  induction l generalizing d with
  | nil => rfl
  | cons x r ih =>
    rw [List.foldl_cons, ih, get?_insert, List.reverse_cons, List.lookup_append, Option.or_assoc,
      lookup_cons]
    split <;> rfl

/-- In ascending order a name occurs once, so reading from the end finds it too. -/
theorem lookup_reverse {l : List (String × String)} (h : l.Pairwise fun a b => a.1 < b.1)
    (name : String) : l.reverse.lookup name = l.lookup name := by
  induction l with
  | nil => rfl
  | cons x r ih =>
    have hx := (List.pairwise_cons.mp h).1
    rw [List.reverse_cons, List.lookup_append, ih (List.pairwise_cons.mp h).2, lookup_cons,
      lookup_cons]
    split
    next hn =>
      rw [lookup_eq_none fun e he hc => String.lt_irrefl _ (hn ▸ hc ▸ hx e he), Option.none_or]
    next => exact Option.or_none

/-- An overlay answers with the upper value where there is one. -/
@[simp] theorem get?_merge (d upper : Dict) (name : String) :
    (d.merge upper).get? name = (upper.get? name).or (d.get? name) := by
  rw [merge, get?_foldl_insert, lookup_reverse upper.ascending]
  rfl

/-- The last pair of a name decides its value. -/
theorem get?_ofList (pairs : List (String × String)) (name : String) :
    (ofList pairs).get? name = pairs.reverse.lookup name := by
  rw [ofList, get?_foldl_insert, get?_empty, Option.or_none]

/-- A name below the first one is in no ascending list. -/
theorem lookup_eq_none_of_lt {x : String × String} {r : List (String × String)} {name : String}
    (h : (x :: r).Pairwise fun a b => a.1 < b.1) (hlt : name < x.1) :
    (x :: r).lookup name = none := by
  refine lookup_eq_none fun e he hc => ?_
  rcases List.mem_cons.mp he with he | he
  · exact String.lt_irrefl name (by rw [he] at hc; exact hc ▸ hlt)
  · exact String.lt_asymm hlt (hc ▸ (List.pairwise_cons.mp h).1 e he)

/-- Look-ups determine a dictionary: its order leaves it no other freedom. -/
theorem ext_get? {a b : Dict} (h : ∀ name, a.get? name = b.get? name) : a = b := by
  obtain ⟨l, hl⟩ := a
  obtain ⟨m, hm⟩ := b
  simp only [get?] at h
  simp only [mk.injEq]
  induction l generalizing m with
  | nil =>
    cases m with
    | nil => rfl
    | cons y s =>
      have := h y.1
      rw [lookup_cons, if_pos rfl, List.lookup_nil] at this
      exact nomatch this
  | cons x r ih =>
    cases m with
    | nil =>
      have := h x.1
      rw [lookup_cons, if_pos rfl, List.lookup_nil] at this
      exact nomatch this
    | cons y s =>
      have hx := (List.pairwise_cons.mp hl).1
      have hy := (List.pairwise_cons.mp hm).1
      have hkey : x.1 = y.1 := by
        by_cases hlt : x.1 < y.1
        · have := h x.1
          rw [lookup_cons, if_pos rfl, lookup_eq_none_of_lt hm hlt] at this
          exact nomatch this
        · by_cases heq : x.1 = y.1
          · exact heq
          · have := h y.1
            rw [lookup_eq_none_of_lt hl (lt_of_not_lt hlt heq), lookup_cons, if_pos rfl] at this
            exact nomatch this
      have hval : x.2 = y.2 := by
        have := h x.1
        rw [lookup_cons, lookup_cons, if_pos rfl, if_pos hkey] at this
        exact Option.some.inj this
      have htail : r = s := by
        refine ih (List.pairwise_cons.mp hl).2 s (List.pairwise_cons.mp hm).2 fun name => ?_
        by_cases hn : name = x.1
        · rw [lookup_eq_none (l := r) fun e he hc => String.lt_irrefl _ (hn ▸ hc ▸ hx e he),
            lookup_eq_none (l := s) fun e he hc =>
              String.lt_irrefl _ (hkey ▸ hn ▸ hc ▸ hy e he)]
        · have := h name
          rwa [lookup_cons, lookup_cons, if_neg hn, if_neg (hkey ▸ hn)] at this
      rw [Prod.ext hkey hval, htail]

end Dict

end EnvProfiles
