import EnvProfiles.Proofs.Resolving.Depth
import EnvProfiles.Proofs.Resolving.Scopes
import EnvProfiles.Store.Memory

/-!
# Exported Again

What a profile sees of a variable that its last ancestor exports. Of each
ancestor the scope lies above the exports, and a scope holds not only the local
variables of that ancestor but all that it has inherited. So an ancestor can
export a variable under a name that one of its own ancestors has used already,
and then its descendants go on seeing the older value: the new one is given to
processes, but not handed down.

What is exported is handed down if the name is new, that is, if neither the local
block of the ancestor nor any block of an ancestor of it has the name.

## Main definitions

* `chain`: Three profiles in a row, of which the second exports a name again.

## Theorems

* `Document.get?_scope_of_last`: What is seen of the last ancestor is in scope.
* `scope_of_last_export`: What a profile sees of an export of its last ancestor.
* `not_every_export_seen`: In `chain` the last profile sees the older value.
-/

namespace EnvProfiles

/-- What is seen of the last ancestor is in scope, unless a local variable hides it. -/
theorem Document.get?_scope_of_last {doc : Document} {found : String → Resolution}
    {name ancestor value : String} (hlast : doc.ancestors.getLast? = some ancestor)
    (hown : name ∉ doc.locals.names) (hseen : (found ancestor).seen name = some value) :
    (doc.complete (doc.inherited found)).scope.get? name = some value := by
  obtain ⟨before, hbefore⟩ := List.getLast?_eq_some_iff.mp hlast
  rw [get?_scope, Dict.get?_eq_none_iff.mpr hown, Option.none_or, hbefore, List.reverse_concat,
    List.findSome?_cons, hseen]

variable {σ : Type} [KeyStore σ]

/-- A profile that does not hide a variable which its last ancestor exports sees it as it is
exported if the name is new to the ancestor, in that neither its local block nor a block of one of
its own ancestors has it. Otherwise it sees it as it is in the scope of the ancestor. -/
theorem scope_of_last_export (store : σ) (key ancestor name : String) (doc : Document)
    (res : Resolution) (h : resolveProfile store key = .ok res)
    (hd : document store key = .ok doc) (hlast : doc.ancestors.getLast? = some ancestor)
    (hown : ¬ DeclaresLocal store key name) (hexport : DeclaresExport store ancestor name) :
    ∃ done value, resolveProfile store ancestor = .ok done ∧
      done.exports.get? name = some value ∧
      (¬ DeclaresLocal store ancestor name →
        (∀ a, Relation.TransGen (Extends store) ancestor a →
          ¬ DeclaresLocal store a name ∧ ¬ DeclaresExport store a name) →
        res.scope.get? name = some value) ∧
      ((DeclaresLocal store ancestor name ∨ ∃ a, Relation.TransGen (Extends store) ancestor a ∧
          (DeclaresLocal store a name ∨ DeclaresExport store a name)) →
        ∃ older, done.scope.get? name = some older ∧ res.scope.get? name = some older) := by
  cases resolveProfile_eq_ok.mp h with
  | @intro _ doc' found hd' hfound =>
      have heq : doc' = doc := Except.ok.inj (hd'.symm.trans hd)
      subst heq
      have hdone := hfound ancestor (List.mem_of_getLast? hlast)
      obtain ⟨value, hvalue⟩ := Dict.mem_names_iff.mp (hdone.mem_names_exports.mpr hexport)
      -- The profile does not hide the name, and its last ancestor is the first that is asked.
      have hsees : ∀ {seen}, (found ancestor).seen name = some seen →
          (doc'.complete (doc'.inherited found)).scope.get? name = some seen :=
        Document.get?_scope_of_last hlast fun hmem => hown ((declaresLocal_iff hd).mpr hmem)
      refine ⟨found ancestor, value, resolveProfile_eq_ok.mpr hdone, hvalue, ?_, ?_⟩
      · intro hlocal hnew
        -- The scope comes before the exports, and does not have a name that is new.
        have hnone : (found ancestor).scope.get? name = none := by
          rw [Dict.get?_eq_none_iff, hdone.mem_names_scope]
          rintro (hdeclared | ⟨a, ha, hdeclared⟩)
          · exact hlocal hdeclared
          · exact hdeclared.elim (hnew a ha).1 (hnew a ha).2
        exact hsees (by rw [Resolution.seen, hnone, hvalue, Option.none_or])
      · intro hdeclared
        obtain ⟨older, holder⟩ := Dict.mem_names_iff.mp (hdone.mem_names_scope.mpr hdeclared)
        exact ⟨older, holder, hsees (by rw [Resolution.seen, holder, Option.some_or])⟩

/-- Three profiles in a row. The second exports `X` again, which the first exports already, and `Y`,
which is new. -/
def chain : MemoryStore :=
  ⟨.ofList [
    ("base", "env:\n  X: base\n"),
    ("mid", "extends: [base]\nenv:\n  X: mid\n  Y: mid\n"),
    ("leaf", "extends: [mid]\nenv:\n  OUT: $X/$Y\n")]⟩

/-- What the last profile of `chain` comes to. -/
def leafOfChain : Resolution :=
  ⟨.ofList [("X", "base"), ("Y", "mid")], .ofList [("OUT", "base/mid")]⟩

/-- What the second profile of `chain` comes to. -/
def midOfChain : Resolution :=
  ⟨.ofList [("X", "base")], .ofList [("X", "mid"), ("Y", "mid")]⟩

theorem resolveProfile_leaf : resolveProfile chain "leaf" = .ok leafOfChain :=
  resolveProfile_eq_of_within 3 (by decide +kernel)

theorem resolveProfile_mid : resolveProfile chain "mid" = .ok midOfChain :=
  resolveProfile_eq_of_within 2 (by decide +kernel)

theorem document_leaf :
    document chain "leaf" = .ok ⟨["mid"], .empty, .ofList [("OUT", "$X/$Y")]⟩ :=
  eq_ok_of_toOption (by decide +kernel)

theorem document_mid :
    document chain "mid" = .ok ⟨["base"], .empty, .ofList [("X", "mid"), ("Y", "mid")]⟩ :=
  eq_ok_of_toOption (by decide +kernel)

theorem document_base : document chain "base" = .ok ⟨[], .empty, .ofList [("X", "base")]⟩ :=
  eq_ok_of_toOption (by decide +kernel)

/-- The second profile of `chain` has no ancestor but the first. -/
theorem eq_base_of_transGen {a : String} (h : Relation.TransGen (Extends chain) "mid" a) :
    a = "base" := by
  obtain ⟨b, hext, hreach⟩ := Relation.TransGen.head'_iff.mp h
  have hclosed : ∀ k ∈ ["base"], ∀ doc ∈ (document chain k).toOption, ∀ a ∈ doc.ancestors,
      a ∈ ["base"] := by decide +kernel
  exact List.mem_singleton.mp (mem_of_reaches hclosed (hext.mem_ancestors document_mid) hreach)

/-- `Y` is new to the profile that exports it, and is handed down as it is exported. -/
theorem scope_of_chain_new : resolveProfile chain "leaf" = .ok leafOfChain ∧
    DeclaresExport chain "mid" "Y" ∧ ¬ DeclaresLocal chain "leaf" "Y" ∧
    midOfChain.exports.get? "Y" = some "mid" ∧ leafOfChain.scope.get? "Y" = some "mid" := by
  have hexport : DeclaresExport chain "mid" "Y" :=
    (declaresExport_iff document_mid).mpr (by decide +kernel)
  have hleaf : ¬ DeclaresLocal chain "leaf" "Y" :=
    (declaresLocal_iff document_leaf).not.mpr (by decide +kernel)
  have hmid : ¬ DeclaresLocal chain "mid" "Y" :=
    (declaresLocal_iff document_mid).not.mpr (by decide +kernel)
  -- The name is new to the chain: the only profile further up does not have it.
  have hnew : ∀ a, Relation.TransGen (Extends chain) "mid" a →
      ¬ DeclaresLocal chain a "Y" ∧ ¬ DeclaresExport chain a "Y" := by
    intro a ha
    rw [eq_base_of_transGen ha, declaresLocal_iff document_base, declaresExport_iff document_base]
    decide +kernel
  obtain ⟨done, value, hdone, hvalue, hscope, _⟩ :=
    scope_of_last_export chain "leaf" "mid" "Y" _ _ resolveProfile_leaf document_leaf rfl hleaf
      hexport
  have heq : done = midOfChain := Except.ok.inj (hdone.symm.trans resolveProfile_mid)
  subst heq
  have hmidY : midOfChain.exports.get? "Y" = some "mid" := by decide +kernel
  exact ⟨resolveProfile_leaf, hexport, hleaf, hmidY,
    (hscope hmid hnew).trans (hvalue.symm.trans hmidY)⟩

/-- What an ancestor exports need not be what is seen of it, even if no local block has the name:
`X` is exported again in `chain`, and the last profile sees the older value. -/
theorem not_every_export_seen :
    ¬ ∀ (store : MemoryStore) (key ancestor name : String) (doc : Document)
      (res done : Resolution), resolveProfile store key = .ok res →
      document store key = .ok doc → doc.ancestors.getLast? = some ancestor →
      DeclaresExport store ancestor name → ¬ DeclaresLocal store ancestor name →
      ¬ DeclaresLocal store key name → resolveProfile store ancestor = .ok done →
      res.scope.get? name = done.exports.get? name := by
  intro h
  have hexport : DeclaresExport chain "mid" "X" :=
    (declaresExport_iff document_mid).mpr (by decide +kernel)
  have hmid : ¬ DeclaresLocal chain "mid" "X" :=
    (declaresLocal_iff document_mid).not.mpr (by decide +kernel)
  have hleaf : ¬ DeclaresLocal chain "leaf" "X" :=
    (declaresLocal_iff document_leaf).not.mpr (by decide +kernel)
  have hseen := h chain "leaf" "mid" "X" _ leafOfChain midOfChain resolveProfile_leaf document_leaf
    rfl hexport hmid hleaf resolveProfile_mid
  exact absurd hseen (by decide +kernel)

end EnvProfiles
