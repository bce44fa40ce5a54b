import EnvProfiles.Proofs.Changes
import EnvProfiles.Proofs.Resolving.Faults

/-!
# Locality

What a profile comes to is decided by the texts of the profiles it leads to, and
a missing one that is named counts among them. The rest of the store might be
anything: another store, even of another kind, that has the same texts under
those keys gives the same answer, and if the answer is a fault, the same fault.

Which keys those are is itself read off the store. It is enough to read it off
one of the two, since a resolver only follows what it has read, and up to there
the stores agree.

## Main definitions

* `Agree`: Two stores have the same texts under what a profile leads to.

## Theorems

* `resolveAlong_congr`: Plain resolution on stores that agree.
* `resolveProfile_congr`: What a profile comes to on stores that agree.
* `resolveProfile_local`: Changes elsewhere leave a resolution alone.
-/

namespace EnvProfiles

variable {σ τ : Type} [KeyStore σ] [KeyStore τ] {store : σ} {other : τ} {key : String}

/-- One store has the same texts as another under the keys to which a profile leads in it. -/
def Agree (store : σ) (other : τ) (key : String) : Prop :=
  ∀ k, Reaches store key k → KeyStore.get? other k = KeyStore.get? store k

/-- Stores that agree for a profile agree for those it names. -/
theorem Agree.of_extends {ancestor : String} (h : Agree store other key)
    (hext : Extends store key ancestor) : Agree store other ancestor :=
  fun k hk => h k (.head hext hk)

theorem Agree.document_eq (h : Agree store other key) :
    document other key = document store key := by
  unfold document
  rw [h key .refl]

/-- Plain resolution goes the same way on stores that agree. -/
theorem resolveAlong_congr {path : List String} (h : Agree store other key) :
    resolveAlong other path key = resolveAlong store path key := by
  fun_induction resolveAlong store path key with
  | case1 path key hp => exact resolveAlong_of_mem hp
  | case2 path key hp fault hd => exact resolveAlong_unread hp (h.document_eq.trans hd)
  | case3 path key hp doc hd ih =>
      rw [resolveAlong_read hp (h.document_eq.trans hd)]
      exact congrArg _ (gather_congr fun a ha => ih a (h.of_extends ⟨doc, hd, ha⟩))

/-- What a profile comes to depends on the texts of what it leads to, and on nothing else. -/
theorem resolveProfile_congr (h : Agree store other key) :
    resolveProfile other key = resolveProfile store key := by
  rw [resolveProfile, resolveProfile, (Resolver.ready_fresh other).resolve_eq,
    (Resolver.ready_fresh store).resolve_eq, resolveAlong_congr h]

/-- Resolution is local. Another store that has the same texts under the keys to which a profile
leads, be they stored or missing, gives the same resolution or the same fault. So does the store
itself after changes that are about other keys. -/
theorem resolveProfile_local (store : σ) (key : String) :
    (∀ other : τ, (∀ k, Reaches store key k → KeyStore.get? other k = KeyStore.get? store k) →
      resolveProfile other key = resolveProfile store key) ∧
    ∀ [LocalStore σ] (changes : List Change),
      (∀ change ∈ changes, ∀ k ∈ change.keys, ¬ Reaches store key k) →
      resolveProfile (Change.after store changes) key = resolveProfile store key := by
  refine ⟨fun other h => resolveProfile_congr h, fun changes h => resolveProfile_congr ?_⟩
  intro k hk
  exact Change.get?_after store fun change hchange hmem => h change hchange k hmem hk

/-- The circle of `looped` is found as before when `c` has been added, given another name and
removed again, and a key that is missing could not be renamed. -/
theorem resolveProfile_looped_after :
    resolveProfile (Change.after looped
      [.set "c" "extends: [a]", .rename "c" "d", .rename "c" "e", .delete "d"]) "top"
      = .error (.profile (.cyclic ["a", "b", "a"])) := by
  -- The three profiles lead to none but each other, and the changes are about other keys.
  have hclosed : ∀ k ∈ ["top", "a", "b"], ∀ doc ∈ (document looped k).toOption,
      ∀ a ∈ doc.ancestors, a ∈ ["top", "a", "b"] := by decide +kernel
  have hchanges : ∀ change ∈ ([.set "c" "extends: [a]", .rename "c" "d", .rename "c" "e",
      .delete "d"] : List Change), ∀ k ∈ change.keys, k ∉ ["top", "a", "b"] := by decide
  have hlocal := (resolveProfile_local (τ := MemoryStore) looped "top").2 _
    fun change hchange k hk hreach =>
      hchanges change hchange k hk (mem_of_reaches hclosed List.mem_cons_self hreach)
  exact hlocal.trans (((Resolver.ready_fresh looped).resolve_eq "top").trans resolveAlong_looped)

end EnvProfiles
