import EnvProfiles.Proofs.Resolving.Depth
import EnvProfiles.Proofs.Resolving.Locality
import EnvProfiles.Proofs.Resolving.Several

/-!
# Redundant Ancestors

When a profile may leave out one of its ancestors. Whatever is seen of an ancestor
is in the scope of all that descend from it, so it is seen no longer once such a
descendant, or the ancestor itself, has been taken in later. A profile that names
an ancestor and after it the ancestor again or a profile that descends from it
comes to the same without the first of them.

Two stores are compared, which differ in what one profile names. A profile that
is resolved leads nowhere back to itself, so below it nothing of the difference
is seen, and its ancestors come to the same in both stores.

## Main definitions

* `Redundant`: Something comes again in a row, or above one of the row.
* `layered`, `slim`: A profile with a redundant ancestor and without it.

## Theorems

* `Resolves.seen_isSome_of_descends`: What is seen of an ancestor is in the
  scopes of all that descend from it.
* `Agree.reaches_iff`: Stores that agree for a profile let it lead to the same.
* `Resolves.rename_ancestors`: A profile that names others under which the same
  is seen comes to the same.
* `resolveProfile_redundant_iff`: A redundant ancestor may be left out.
* `resolveProfile_layered`: The redundant ancestor of `layered` changes nothing.
-/

namespace EnvProfiles

/-- A search from the end does not miss what is found again after it. -/
theorem findSome?_reverse_drop {α β : Type} {f : α → Option β} {before after : List α} {a : α}
    (h : (f a).isSome → ∃ b ∈ after, (f b).isSome) :
    (before ++ a :: after).reverse.findSome? f = (before ++ after).reverse.findSome? f := by
  simp only [List.reverse_append, List.reverse_cons, List.findSome?_append,
    List.findSome?_singleton, List.append_assoc]
  cases hafter : after.reverse.findSome? f with
  | some b => rw [Option.some_or, Option.some_or]
  | none =>
      -- If the last part finds nothing, then what is left out would not have found anything.
      have hnone : f a = none := by
        rw [← Option.not_isSome_iff_eq_none]
        intro ha
        obtain ⟨b, hb, hsome⟩ := h ha
        rw [List.findSome?_eq_none_iff.mp hafter b (List.mem_reverse.mpr hb)] at hsome
        exact nomatch hsome
      rw [hnone, Option.none_or]

variable {σ τ : Type} [KeyStore σ] [KeyStore τ] {store : σ} {other : τ} {key : String}

/-- What is seen of an ancestor is in the scopes of all that descend from it. -/
theorem Resolves.seen_isSome_of_descends {ancestor name : String} {res done : Resolution}
    (h : Resolves store key res) (hdone : Resolves store ancestor done)
    (hdescends : Relation.TransGen (Extends store) key ancestor) (hseen : (done.seen name).isSome) :
    (res.seen name).isSome := by
  refine Resolution.seen_isSome.mpr (.inl (h.mem_names_scope.mpr (.inr ?_)))
  rw [Resolution.seen_isSome, hdone.mem_names_scope, hdone.mem_names_exports] at hseen
  rcases hseen with (hlocal | ⟨a, ha, hname⟩) | hexport
  · exact ⟨ancestor, hdescends, .inl hlocal⟩
  · exact ⟨a, hdescends.trans ha, hname⟩
  · exact ⟨ancestor, hdescends, .inr hexport⟩

/-! ### Stores that differ in one profile -/

theorem Agree.extends_iff {k a : String} (h : Agree store other key) (hk : Reaches store key k) :
    Extends other k a ↔ Extends store k a := by
  have hdoc : document other k = document store k := by rw [document, h k hk, document]
  rw [Extends, Extends, hdoc]

/-- Stores that agree for a profile let it lead to the same. -/
theorem Agree.reaches_iff {k : String} (h : Agree store other key) :
    Reaches other key k ↔ Reaches store key k := by
  constructor
  · intro hk
    induction hk with
    | refl => exact .refl
    | tail _ hext ih => exact .tail ih ((h.extends_iff ih).mp hext)
  · intro hk
    induction hk with
    | refl => exact .refl
    | tail hk hext ih => exact .tail ih ((h.extends_iff hk).mpr hext)

theorem Agree.transGen_iff {k : String} (h : Agree store other key) :
    Relation.TransGen (Extends other) key k ↔ Relation.TransGen (Extends store) key k := by
  simp only [Relation.TransGen.tail'_iff, h.reaches_iff]
  exact exists_congr fun a => and_congr_right fun ha => h.extends_iff ha

/-- Stores that differ in one profile agree for all that do not lead to it. -/
theorem agree_of_not_reaches {k : String}
    (hagree : ∀ k, k ≠ key → KeyStore.get? other k = KeyStore.get? store k)
    (h : ¬ Reaches store k key) : Agree store other k :=
  fun p hp => hagree p fun hc => h (hc ▸ hp)

/-- The ancestors of a profile that is resolved do not lead to it, so stores that differ in it agree
for them. -/
theorem Resolves.agree_of_descends {res : Resolution} {a : String} (h : Resolves store key res)
    (hagree : ∀ k, k ≠ key → KeyStore.get? other k = KeyStore.get? store k)
    (ha : Relation.TransGen (Extends store) key a) : Agree store other a :=
  agree_of_not_reaches hagree fun hback => h.not_circular (ha.trans_left hback)

/-- If a profile is resolved, and in another store names other profiles it descends from, under
which the same is seen, then it comes to the same there. -/
theorem Resolves.rename_ancestors {res : Resolution} {keys keys' : List String}
    {locals exports : Dict} (h : Resolves store key res)
    (hagree : ∀ k, k ≠ key → KeyStore.get? other k = KeyStore.get? store k)
    (hd : document store key = .ok ⟨keys, locals, exports⟩)
    (hd' : document other key = .ok ⟨keys', locals, exports⟩)
    (hdescends : ∀ a ∈ keys', Relation.TransGen (Extends store) key a)
    (hseen : ∀ name, keys'.reverse.findSome? (fun a => (resolutionOf store a).seen name)
      = keys.reverse.findSome? fun a => (resolutionOf store a).seen name) :
    Resolves other key res := by
  -- All that the profile descends from is resolved, and comes to the same in the other store.
  have hfound : ∀ a, Relation.TransGen (Extends store) key a →
      Resolves store a (resolutionOf store a) := by
    intro a ha
    obtain ⟨done, hdone⟩ := h.of_reaches ha.to_reflTransGen
    exact (resolutionOf_eq (resolveProfile_eq_ok.mpr hdone)).symm ▸ hdone
  have hfound' : ∀ a ∈ keys', Resolves other a (resolutionOf store a) := by
    intro a ha
    have hsame := resolveProfile_congr (h.agree_of_descends hagree (hdescends a ha))
    exact resolveProfile_eq_ok.mp
      (hsame.trans (resolveProfile_eq_ok.mpr (hfound a (hdescends a ha))))
  have hres : Resolves store key (Document.complete ⟨keys, locals, exports⟩
      (Document.inherited ⟨keys, locals, exports⟩ (resolutionOf store))) :=
    .intro hd fun a ha => hfound a (.single ⟨_, hd, ha⟩)
  -- The same is seen of both rows, so the same is inherited.
  have hinherited : Document.inherited ⟨keys', locals, exports⟩ (resolutionOf store)
      = Document.inherited ⟨keys, locals, exports⟩ (resolutionOf store) :=
    Dict.ext_get? fun name => by rw [Document.get?_inherited, Document.get?_inherited, hseen]
  rw [h.unique hres, ← hinherited]
  exact .intro hd' hfound'

/-! ### Leaving out -/

/-- A profile comes again in a row, or above one of the row. -/
def Redundant (store : σ) (row : List String) (ancestor : String) : Prop :=
  ancestor ∈ row ∨ ∃ later ∈ row, Relation.TransGen (Extends store) later ancestor

/-- What is redundant among the ancestors of a profile that is resolved is so in the other store as
well. -/
theorem Resolves.redundant_iff {res : Resolution} {row : List String} {ancestor : String}
    (h : Resolves store key res)
    (hagree : ∀ k, k ≠ key → KeyStore.get? other k = KeyStore.get? store k)
    (hrow : ∀ a ∈ row, Extends store key a) :
    Redundant other row ancestor ↔ Redundant store row ancestor :=
  or_congr_right (exists_congr fun later => and_congr_right fun hlater =>
    (h.agree_of_descends hagree (.single (hrow later hlater))).transGen_iff)

/-- Of something redundant nothing is seen that is not seen of the row as well. -/
theorem Resolves.seen_of_redundant {res : Resolution} {row : List String} {ancestor name : String}
    (h : Resolves store key res) (hrow : ∀ a ∈ row, Extends store key a)
    (hredundant : Redundant store row ancestor)
    (hseen : ((resolutionOf store ancestor).seen name).isSome) :
    ∃ a ∈ row, ((resolutionOf store a).seen name).isSome := by
  rcases hredundant with hmem | ⟨later, hlater, hdescends⟩
  · exact ⟨ancestor, hmem, hseen⟩
  · -- What is seen of something above one of the row is in the scope of that one.
    obtain ⟨done, hdone⟩ := h.of_extends (hrow later hlater)
    obtain ⟨done', hdone'⟩ := hdone.of_reaches hdescends.to_reflTransGen
    rw [resolutionOf_eq (resolveProfile_eq_ok.mpr hdone')] at hseen
    refine ⟨later, hlater, ?_⟩
    rw [resolutionOf_eq (resolveProfile_eq_ok.mpr hdone)]
    exact hdone.seen_isSome_of_descends hdone' hdescends hseen

/-- A redundant ancestor may be left out. If two stores differ in one profile, which names an
ancestor in the first and not in the second, and names after it in both that ancestor again or a
profile that descends from it, then the profile comes to the same in both, or cannot be resolved in
either. -/
theorem resolveProfile_redundant_iff (first : σ) (second : τ) (key ancestor : String)
    (before after : List String) (locals exports : Dict)
    (hagree : ∀ k, k ≠ key → KeyStore.get? second k = KeyStore.get? first k)
    (hfirst : document first key = .ok ⟨before ++ ancestor :: after, locals, exports⟩)
    (hsecond : document second key = .ok ⟨before ++ after, locals, exports⟩)
    (hredundant : Redundant first after ancestor ∨ Redundant second after ancestor)
    (res : Resolution) :
    resolveProfile first key = .ok res ↔ resolveProfile second key = .ok res := by
  rw [resolveProfile_eq_ok, resolveProfile_eq_ok]
  constructor
  · intro h
    have hafter : ∀ a ∈ after, Extends first key a := fun a ha =>
      ⟨_, hfirst, List.mem_append_right _ (List.mem_cons_of_mem _ ha)⟩
    -- The argument goes from the first store to the second, so redundancy is wanted in the first.
    have hred : Redundant first after ancestor :=
      hredundant.elim id (h.redundant_iff hagree hafter).mp
    refine h.rename_ancestors hagree hfirst hsecond (fun a ha => ?_) fun name => ?_
    · refine .single ⟨_, hfirst, ?_⟩
      exact List.mem_append.mpr ((List.mem_append.mp ha).imp_right (List.mem_cons_of_mem _))
    · exact (findSome?_reverse_drop (h.seen_of_redundant hafter hred)).symm
  · intro h
    have hagree' : ∀ k, k ≠ key → KeyStore.get? first k = KeyStore.get? second k :=
      fun k hk => (hagree k hk).symm
    have hafter : ∀ a ∈ after, Extends second key a := fun a ha =>
      ⟨_, hsecond, List.mem_append_right _ ha⟩
    have hred : Redundant second after ancestor :=
      hredundant.elim (h.redundant_iff hagree' hafter).mp id
    refine h.rename_ancestors hagree' hsecond hfirst (fun a ha => ?_) fun name => ?_
    · rcases List.mem_append.mp ha with ha | ha
      · exact .single ⟨_, hsecond, List.mem_append_left _ ha⟩
      · rcases List.mem_cons.mp ha with rfl | ha
        · -- What is left out is still an ancestor, through the row that follows it.
          rcases hred with hmem | ⟨later, hlater, hdescends⟩
          · exact .single (hafter a hmem)
          · exact .head (hafter later hlater) hdescends
        · exact .single (hafter a ha)
    · exact findSome?_reverse_drop (h.seen_of_redundant hafter hred)

/-- A profile that names an ancestor of its other two ancestors as well, in between them. -/
def layered : MemoryStore :=
  ⟨.ofList [
    ("base", "local:\n  v: base\nenv:\n  X: x-$v\n"),
    ("left", "extends: [base]\nlocal:\n  v: left\nenv:\n  Y: $X\n"),
    ("mid", "extends: [base]\n"),
    ("right", "extends: [mid]\nlocal:\n  v: right\n"),
    ("top", "extends: [left, base, right]\nenv:\n  OUT: $X/$Y/$v\n")]⟩

/-- The same profiles, but the last leaves out the ancestor of its other two. -/
def slim : MemoryStore :=
  ⟨layered.dict.insert "top" "extends: [left, right]\nenv:\n  OUT: $X/$Y/$v\n"⟩

/-- The ancestor in between is one of `right`, two steps away, and may be left out. -/
theorem resolveProfile_layered :
    (∀ k, k ≠ "top" → KeyStore.get? slim k = KeyStore.get? layered k) ∧
    document layered "top" = .ok ⟨["left"] ++ "base" :: ["right"], .empty,
      .ofList [("OUT", "$X/$Y/$v")]⟩ ∧
    document slim "top" = .ok ⟨["left"] ++ ["right"], .empty, .ofList [("OUT", "$X/$Y/$v")]⟩ ∧
    Redundant layered ["right"] "base" ∧
    resolveProfile slim "top" = .ok ⟨.ofList [("X", "x-base"), ("Y", "x-base"), ("v", "right")],
      .ofList [("OUT", "x-base/x-base/right")]⟩ := by
  have hagree : ∀ k, k ≠ "top" → KeyStore.get? slim k = KeyStore.get? layered k := by
    intro k hk
    refine congrArg Except.ok ?_
    simp [slim, hk]
  have hlayered : document layered "top" = .ok ⟨["left"] ++ "base" :: ["right"], .empty,
      .ofList [("OUT", "$X/$Y/$v")]⟩ := eq_ok_of_toOption (by decide +kernel)
  have hlean : document slim "top" = .ok ⟨["left"] ++ ["right"], .empty,
      .ofList [("OUT", "$X/$Y/$v")]⟩ := eq_ok_of_toOption (by decide +kernel)
  have hright : document layered "right" = .ok ⟨["mid"], .ofList [("v", "right")], .empty⟩ :=
    eq_ok_of_toOption (by decide +kernel)
  have hmid : document layered "mid" = .ok ⟨["base"], .empty, .empty⟩ :=
    eq_ok_of_toOption (by decide +kernel)
  have hredundant : Redundant layered ["right"] "base" :=
    .inr ⟨"right", List.mem_cons_self, .head ⟨_, hright, List.mem_cons_self⟩
      (.single ⟨_, hmid, List.mem_cons_self⟩)⟩
  refine ⟨hagree, hlayered, hlean, hredundant, ?_⟩
  refine (resolveProfile_redundant_iff layered slim "top" "base" ["left"] ["right"] _ _ hagree
    hlayered hlean (.inl hredundant) _).mp ?_
  exact resolveProfile_eq_of_within 4 (by decide +kernel)

end EnvProfiles
