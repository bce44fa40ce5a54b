import EnvProfiles.Proofs.Resolving.History

/-!
# Resolutions as Solutions

What a resolver computes, said by what its result has to satisfy. A profile is
resolved exactly if the graph below it is whole, in that everything it leads to
is stored and can be read, and free of circles. The scopes and exports of all
profiles in that graph then solve the inheritance rule, and nothing else does.

The direction from the graph to the result is the one that needs an argument.
Plain resolution always ends, so it either succeeds or reports a fault, and a
fault it reports is one that the graph was assumed not to have.

## Theorems

* `not_foundFrom`: In such a graph there is no fault.
* `exists_resolves_iff`: A profile has a derivation if the graph below it is
  whole and has no circle.
* `exists_isSolution`: A derivation gives a solution.
* `resolveProfile_ok_iff_and_unique`: When a profile is resolved, and that the
  result is the only solution of the rule.
-/

namespace EnvProfiles

variable {σ : Type} [KeyStore σ]

/-- To resolve with nothing remembered is to resolve plainly. -/
theorem resolveProfile_eq_ok {store : σ} {key : String} {res : Resolution} :
    resolveProfile store key = .ok res ↔ Resolves store key res := by
  rw [resolveProfile, (Resolver.ready_fresh store).resolve_eq, resolveAlong_nil_eq_ok]

/-- In a graph that is whole and has no circle there is nothing for a fault to be about. -/
theorem not_foundFrom {store : σ} {key : String}
    (hread : ∀ p, Reaches store key p → ∃ doc, document store p = .ok doc)
    (hcircle : ∀ p, Reaches store key p → ¬ Circular store p) (fault : Fault) :
    ¬ fault.FoundFrom store key := by
  intro hfound
  have hstored : ∀ p, Reaches store key p → ∃ doc text,
      KeyStore.get? store p = .ok (some text) ∧ Document.parse p text = .ok doc := by
    intro p hp
    obtain ⟨doc, hdoc⟩ := hread p hp
    exact ⟨doc, document_eq_ok.mp hdoc⟩
  -- Nothing is missing or unreadable, no look-up fails, and there is no circle.
  unfold Fault.FoundFrom at hfound
  split at hfound
  next p =>
    obtain ⟨hp, hmissing⟩ := hfound
    obtain ⟨_, _, htext, _⟩ := hstored p hp
    exact nomatch htext.symm.trans hmissing
  next p cause =>
    obtain ⟨hp, other, hother, hparse⟩ := hfound
    obtain ⟨_, text, htext, hok⟩ := hstored p hp
    have heq : text = other := Option.some.inj (Except.ok.inj (htext.symm.trans hother))
    subst heq
    exact nomatch hparse.symm.trans hok
  next circle =>
    obtain ⟨hround, p, hfirst, hp⟩ := hfound
    exact hcircle p hp (hround.circular hfirst)
  next cause =>
    obtain ⟨p, hp, hrefused⟩ := hfound
    obtain ⟨_, _, htext, _⟩ := hstored p hp
    exact nomatch htext.symm.trans hrefused
  next => exact hfound

/-- A profile has a derivation if the graph below it is whole and has no circle. -/
theorem exists_resolves_iff {store : σ} {key : String} :
    (∃ res, Resolves store key res) ↔
      (∀ p, Reaches store key p → ∃ doc, document store p = .ok doc) ∧
        ∀ p, Reaches store key p → ¬ Circular store p := by
  constructor
  · rintro ⟨res, h⟩
    refine ⟨fun p hp => ?_, fun p hp => ?_⟩
    · obtain ⟨done, hdone⟩ := h.of_reaches hp
      exact hdone.exists_document
    · obtain ⟨done, hdone⟩ := h.of_reaches hp
      exact hdone.not_circular
  · rintro ⟨hread, hcircle⟩
    -- Plain resolution always ends, and there is no fault for it to end with.
    cases hplain : resolveAlong store [] key with
    | ok res => exact ⟨res, resolveAlong_nil_eq_ok.mp hplain⟩
    | error fault =>
        exact absurd (foundFrom_of_resolveAlong .start hplain) (not_foundFrom hread hcircle fault)

/-- A derivation gives a solution. -/
theorem exists_isSolution {store : σ} {key : String} {res : Resolution}
    (h : Resolves store key res) : ∃ found, IsSolution store key found ∧ found key = res := by
  obtain ⟨found, hfound⟩ : ∃ found : String → Resolution,
      ∀ p done, Resolves store p done → found p = done := by
    refine ⟨fun p => (resolveAlong store [] p).toOption.getD default, fun p done hp => ?_⟩
    simp only [resolveAlong_nil_eq_ok.mpr hp, Except.toOption, Option.getD_some]
  refine ⟨found, fun p hp => ?_, hfound key res h⟩
  obtain ⟨done, hdone⟩ := h.of_reaches hp
  rw [hfound p done hdone]
  cases hdone with
  | @intro _ doc others hdoc hothers =>
      refine ⟨doc, hdoc, followsRule_iff.mpr (congrArg doc.complete ?_)⟩
      exact Document.inherited_congr fun a ha => (hfound a _ (hothers a ha)).symm

/-- A profile is resolved exactly if all that it leads to is stored and can be read, and none of it
leads back to itself. The result then belongs to the only solution of the inheritance rule on what
the profile leads to. -/
theorem resolveProfile_ok_iff_and_unique (store : σ) (key : String) :
    ((∃ res, resolveProfile store key = .ok res) ↔
      (∀ p, Reaches store key p → ∃ doc text, KeyStore.get? store p = .ok (some text) ∧
        Document.parse p text = .ok doc) ∧
      ∀ p, Reaches store key p → ¬ Circular store p) ∧
    ∀ res, resolveProfile store key = .ok res →
      ∃ found, IsSolution store key found ∧ found key = res ∧
        ∀ other, IsSolution store key other → ∀ p, Reaches store key p → other p = found p := by
  constructor
  · simp only [resolveProfile_eq_ok, exists_resolves_iff, document_eq_ok]
  · intro res hres
    have hderived := resolveProfile_eq_ok.mp hres
    obtain ⟨found, hfound, hkey⟩ := exists_isSolution hderived
    refine ⟨found, hfound, hkey, fun other hother p hp => ?_⟩
    obtain ⟨done, hdone⟩ := hderived.of_reaches hp
    rw [(hother.of_reaches hp).eq_of_resolves hdone, (hfound.of_reaches hp).eq_of_resolves hdone]

end EnvProfiles
