import EnvProfiles.Proofs.Resolving.Solution

/-!
# Resolving to a Depth

What a profile comes to, if no line of ancestors that starts with it has more
than so many profiles. The bound is counted down, so this is a recursion on a
number and can be computed with, where a resolver goes wherever the texts lead.
What is found within a bound has a derivation that is no deeper than the bound,
and is therefore what a resolver finds as well.

## Main definitions

* `resolveWithin`: What a profile comes to within a depth.

## Theorems

* `resolves_of_resolveWithin`: What is found within a depth has a derivation.
* `resolveProfile_eq_of_within`: A resolver finds what is found within a depth.
-/

namespace EnvProfiles

variable {σ : Type} [KeyStore σ] {store : σ}

/-- What a profile comes to, if no line of ancestors that starts with it has more than so many
profiles. -/
def resolveWithin (store : σ) : Nat → String → Except Fault Resolution
  | 0, key => .error (.other ("too far away: " ++ key))
  | depth + 1, key =>
    match document store key with
    | .error fault => .error fault
    | .ok doc =>
      (gather (resolveWithin store depth) Dict.inherit doc.ancestors .empty).map doc.complete

/-- What is found within a depth has a derivation. -/
theorem resolves_of_resolveWithin {depth : Nat} {key : String} {res : Resolution}
    (h : resolveWithin store depth key = .ok res) : Resolves store key res := by
  induction depth generalizing key res with
  | zero => exact nomatch h
  | succ depth ih =>
      rw [resolveWithin] at h
      split at h
      next => exact nomatch h
      next doc hd =>
        -- Each ancestor has been found within one less, so it has a derivation.
        obtain ⟨inherited, hgather, hres⟩ := map_eq_ok.mp h
        obtain ⟨found, hfound, rfl⟩ := exists_of_gather_eq_ok hgather
        exact hres ▸ .intro hd fun a ha => ih (hfound a ha)

/-- A resolver finds what is found within a depth. -/
theorem resolveProfile_eq_of_within (depth : Nat) {key : String} {res : Resolution}
    (h : (resolveWithin store depth key).toOption = some res) :
    resolveProfile store key = .ok res :=
  resolveProfile_eq_ok.mpr (resolves_of_resolveWithin (eq_ok_of_toOption h))

end EnvProfiles
