import EnvProfiles.Profile.Resolver
import Mathlib.Data.List.Chain
import Mathlib.Data.Set.Finite.Basic
import Mathlib.Logic.Relation

/-!
# Ancestry

The graph that the profiles of a store form by extending each other, and the
paths through it on which a resolver finds itself.

A resolver that is at some profile has come there from the one that was asked
for, along profiles each of which names the next. `Trail` records that, together
with the fact that no profile was entered twice. It is the reason why a circle
that a resolver reports is there: what it reports is a piece of its trail.

Only a profile whose text can be read names others, so all profiles on a trail
have a text, and a trail is no longer than the store is large.

## Main definitions

* `Extends`, `Reaches`, `Circular`: One profile names another, leads to it, or
  leads back to itself.
* `stored`: The keys that have a text.
* `Trail`: How a resolver came to a profile.
* `IsCircle`: A list of profiles that goes round a circle once.

## Theorems

* `Trail.leads`: A profile on the trail leads to the one at its end.
* `Trail.length_le`: A trail is no longer than the store is large.
* `Trail.isCircle_cycle`: A trail that comes back to one of its profiles closes
  a circle.
-/

namespace EnvProfiles

variable {σ : Type} [KeyStore σ]

/-- One profile names another as an ancestor. -/
def Extends (store : σ) (key ancestor : String) : Prop :=
  ∃ doc, document store key = .ok doc ∧ ancestor ∈ doc.ancestors

/-- A profile is another one or has it as an ancestor, however far away. -/
abbrev Reaches (store : σ) : String → String → Prop := Relation.ReflTransGen (Extends store)

/-- A profile is its own ancestor. -/
abbrev Circular (store : σ) (key : String) : Prop := Relation.TransGen (Extends store) key key

/-- A profile that names another has a text. -/
theorem Extends.exists_text {store : σ} {key ancestor : String} (h : Extends store key ancestor) :
    ∃ text, KeyStore.get? store key = .ok (some text) := by
  obtain ⟨doc, hdoc, _⟩ := h
  obtain ⟨text, htext, _⟩ := document_eq_ok.mp hdoc
  exact ⟨text, htext⟩

/-- What a profile names is in its document. -/
theorem Extends.mem_ancestors {store : σ} {key ancestor : String} {doc : Document}
    (h : Extends store key ancestor) (hd : document store key = .ok doc) :
    ancestor ∈ doc.ancestors := by
  obtain ⟨other, hother, hmem⟩ := h
  rw [hd] at hother
  exact Except.ok.inj hother ▸ hmem

/-- Keys that name none but each other lead to none but each other. -/
theorem mem_of_reaches {store : σ} {keys : List String}
    (hclosed : ∀ k ∈ keys, ∀ doc ∈ (document store k).toOption, ∀ a ∈ doc.ancestors, a ∈ keys)
    {key ancestor : String} (hkey : key ∈ keys) (h : Reaches store key ancestor) :
    ancestor ∈ keys := by
  induction h with
  | refl => exact hkey
  | tail _ hext ih =>
      obtain ⟨doc, hd, hmem⟩ := hext
      exact hclosed _ ih doc (by rw [hd]; rfl) _ hmem

theorem finite_setOf_text (store : σ) :
    {key | ∃ text, KeyStore.get? store key = .ok (some text)}.Finite := by
  obtain ⟨known, hknown⟩ := KeyStore.finite store
  exact known.finite_toSet.subset fun key ⟨text, h⟩ => hknown key text h

/-- The keys that have a text. -/
noncomputable def stored (store : σ) : Finset String := (finite_setOf_text store).toFinset

theorem mem_stored {store : σ} {key : String} :
    key ∈ stored store ↔ ∃ text, KeyStore.get? store key = .ok (some text) :=
  Set.Finite.mem_toFinset (finite_setOf_text store)

/-- The circle that a key on a path closes is what follows its first visit. -/
theorem Resolver.exists_cycle_eq {path : List String} {key : String} (hk : key ∈ path) :
    ∃ before after, path = before ++ key :: after ∧
      Resolver.cycle path key = key :: after ++ [key] := by
  obtain ⟨before, after, hpath, hbefore⟩ := List.eq_append_cons_of_mem hk
  refine ⟨before, after, hpath, ?_⟩
  have hskip : ∀ k ∈ before, (k != key) = true :=
    fun k hk => bne_iff_ne.mpr fun hc => hbefore (hc ▸ hk)
  rw [Resolver.cycle, hpath, List.dropWhile_append_of_pos hskip]
  simp only [List.dropWhile_cons, bne_self_eq_false, Bool.false_eq_true, if_false]

theorem Resolver.head?_cycle {path : List String} {key : String} (hk : key ∈ path) :
    (Resolver.cycle path key).head? = some key := by
  obtain ⟨_, _, _, hcycle⟩ := exists_cycle_eq hk
  rw [hcycle, List.cons_append, List.head?_cons]

/-- A list of profiles that goes round a circle once: each names the next, the last is the first
again, and no other comes twice. -/
structure IsCircle (store : σ) (circle : List String) : Prop where
  two_le_length : 2 ≤ circle.length
  closed : circle.head? = circle.getLast?
  distinct : circle.dropLast.Nodup
  linked : circle.IsChain (Extends store)

/-- The first profile of a circle leads back to itself. -/
theorem IsCircle.circular {store : σ} {circle : List String} {key : String}
    (h : IsCircle store circle) (hk : circle.head? = some key) : Circular store key := by
  obtain ⟨rest, rfl⟩ := List.head?_eq_some_iff.mp hk
  have hchain : (key :: rest).IsChain (Relation.TransGen (Extends store)) :=
    h.linked.imp fun _ _ => .single
  have hlast : (key :: rest).getLast? = some key := h.closed.symm.trans hk
  -- The last profile is the first one again, and comes after it.
  have hmem : key ∈ rest := by
    cases rest with
    | nil => exact absurd h.two_le_length (by simp only [List.length_singleton]; omega)
    | cons a rest =>
        rw [List.getLast?_cons_cons] at hlast
        exact List.mem_of_getLast? hlast
  exact (List.pairwise_cons.mp hchain.pairwise).1 key hmem

/-- How a resolver came from the profile it was asked for to another one: over the profiles of a
path, none of them entered twice. -/
inductive Trail (store : σ) (start : String) : List String → String → Prop where
  | start : Trail store start [] start
  | enter {path : List String} {key ancestor : String} : Trail store start path key →
    key ∉ path → Extends store key ancestor → Trail store start (path ++ [key]) ancestor

namespace Trail

variable {store : σ} {start key : String} {path : List String}

theorem nodup (h : Trail store start path key) : path.Nodup := by
  induction h with
  | start => exact List.nodup_nil
  | enter _ hnew _ ih =>
      exact ih.append (List.nodup_singleton _) (List.disjoint_singleton.mpr hnew)

/-- Each profile of a trail names the next. -/
theorem isChain (h : Trail store start path key) :
    (path ++ [key]).IsChain (Extends store) := by
  induction h with
  | start => exact List.isChain_singleton _
  | @enter path key ancestor _ _ hext ih =>
      refine ih.append (List.isChain_singleton _) fun x hx y hy => ?_
      simp only [List.getLast?_concat, Option.mem_some_iff] at hx
      simp only [List.head?_cons, Option.mem_some_iff] at hy
      exact hx ▸ hy ▸ hext

/-- A profile on the trail leads to the one at its end. -/
theorem leads (h : Trail store start path key) {k : String} (hk : k ∈ path) :
    Relation.TransGen (Extends store) k key := by
  induction h with
  | start => exact absurd hk List.not_mem_nil
  | @enter path key ancestor _ _ hext ih =>
      rcases List.mem_append.mp hk with hk | hk
      · -- It led to the profile that was entered last, and that one names the next.
        exact (ih hk).tail hext
      · rw [List.mem_singleton.mp hk]
        exact .single hext

/-- The profile that was asked for leads to the one at the end. -/
theorem reaches (h : Trail store start path key) : Reaches store start key := by
  induction h with
  | start => exact .refl
  | enter _ _ hext ih => exact ih.tail hext

/-- All profiles on a trail have a text. -/
theorem mem_stored_of_mem (h : Trail store start path key) {k : String} (hk : k ∈ path) :
    k ∈ stored store := by
  -- It leads on, so it names something, so it has a text.
  obtain ⟨next, hext, _⟩ := Relation.TransGen.head'_iff.mp (h.leads hk)
  exact mem_stored.mpr hext.exists_text

/-- A trail is no longer than the store is large. -/
theorem length_le (h : Trail store start path key) : path.length ≤ (stored store).card := by
  rw [← List.toFinset_card_of_nodup h.nodup]
  exact Finset.card_le_card fun k hk => h.mem_stored_of_mem (List.mem_toFinset.mp hk)

/-- A trail that comes back to one of its profiles closes a circle. -/
theorem isCircle_cycle (h : Trail store start path key) (hk : key ∈ path) :
    IsCircle store (Resolver.cycle path key) := by
  -- The circle is the part of the trail from the first visit on, with the profile once more.
  obtain ⟨before, after, hpath, hcycle⟩ := Resolver.exists_cycle_eq hk
  have hnodup := h.nodup
  have hchain := h.isChain
  rw [hpath] at hnodup
  rw [hpath, List.append_assoc] at hchain
  rw [hcycle]
  refine ⟨?_, ?_, ?_, ?_⟩
  · rw [List.length_append, List.length_cons, List.length_singleton]
    omega
  · rw [List.getLast?_concat, List.cons_append, List.head?_cons]
  · rw [List.dropLast_concat]
    exact (List.nodup_append.mp hnodup).2.1
  · exact hchain.right_of_append

end Trail

end EnvProfiles
