import EnvProfiles.Proofs.Resolving.History
import EnvProfiles.Store.Memory

/-!
# Faults of a Resolver

What a resolver reports when it fails is so, whatever it was asked before. A
profile it calls missing is missing, one it calls unreadable is unreadable, and
a circle it reports can be walked; and each of them is something that the
profile asked for leads to.

This is the statement about plain resolution once more, since a resolver that is
between two calls answers as plain resolution does. What is added is that a
store which can be read leaves no other faults.

## Main definitions

* `looped`: A store with a circle below the profile that is asked for.

## Theorems

* `resolve_fault_foundFrom`: The faults of a resolver are real.
* `resolve_looped_foundFrom`: The circle of `looped`, found after a failed call.
-/

namespace EnvProfiles

/-- In a store that can be read, only profiles are at fault. -/
theorem Fault.FoundFrom.exists_profile {σ : Type} [KeyStore σ] {store : σ} {key : String}
    {fault : Fault} (h : fault.FoundFrom store key)
    (hread : ∀ k, ∃ text, KeyStore.get? store k = .ok text) : ∃ cause, fault = .profile cause := by
  cases fault with
  | profile cause => exact ⟨cause, rfl⟩
  | store cause =>
      obtain ⟨k, _, hrefused⟩ := h
      obtain ⟨text, htext⟩ := hread k
      exact nomatch htext.symm.trans hrefused
  | _ => exact absurd h id

/-- The faults of a resolver are real, and they are faults of profiles: whatever it was asked
before, what it reports is missing, unreadable or a circle, and the profile it was asked for leads
there. -/
theorem resolve_fault_foundFrom {σ : Type} [KeyStore σ] (store : σ)
    (hread : ∀ k, ∃ text, KeyStore.get? store k = .ok text) (calls : List Inquiry) (key : String)
    (fault : Fault)
    (h : (Resolver.resolve store key (Inquiry.after store calls .fresh)).1 = .error fault) :
    ∃ cause, fault = .profile cause ∧ fault.FoundFrom store key := by
  have hready := Inquiry.ready_after calls (Resolver.ready_fresh store)
  -- What earlier calls have left behind makes no difference to the answer.
  have hfound := foundFrom_of_resolveAlong .start ((hready.resolve_eq key).symm.trans h)
  obtain ⟨cause, hcause⟩ := hfound.exists_profile hread
  exact ⟨cause, hcause, hfound⟩

/-- Two profiles that extend each other, below a third. -/
def looped : MemoryStore :=
  ⟨.ofList [("a", "extends: [b]"), ("b", "extends: [a]"), ("top", "extends: [a]")]⟩

/-- A profile fails as its first ancestor does. -/
theorem resolveAlong_of_first {σ : Type} [KeyStore σ] {store : σ} {path : List String}
    {key ancestor : String} {doc : Document} {rest : List String} {fault : Fault}
    (h : key ∉ path) (hd : document store key = .ok doc) (hfirst : doc.ancestors = ancestor :: rest)
    (ha : resolveAlong store (path ++ [key]) ancestor = .error fault) :
    resolveAlong store path key = .error fault := by
  rw [resolveAlong_read h hd, hfirst, gather_cons_error ha]
  rfl

/-- The circle is found from the profile that leads into it, and named without that profile. -/
theorem resolveAlong_looped :
    resolveAlong looped [] "top" = .error (.profile (.cyclic ["a", "b", "a"])) := by
  have htop : document looped "top" = .ok ⟨["a"], .empty, .empty⟩ :=
    eq_ok_of_toOption (by decide +kernel)
  have ha : document looped "a" = .ok ⟨["b"], .empty, .empty⟩ :=
    eq_ok_of_toOption (by decide +kernel)
  have hb : document looped "b" = .ok ⟨["a"], .empty, .empty⟩ :=
    eq_ok_of_toOption (by decide +kernel)
  refine resolveAlong_of_first (by decide) htop rfl ?_
  refine resolveAlong_of_first (by decide) ha rfl ?_
  refine resolveAlong_of_first (by decide) hb rfl ?_
  exact resolveAlong_of_mem (by decide)

/-- The circle of `looped`, found after a call that failed. -/
theorem resolve_looped_foundFrom :
    (∀ k, ∃ text, KeyStore.get? looped k = .ok text) ∧
    (Resolver.resolve looped "top" (Inquiry.after looped [.profiles ["c", "b"]] .fresh)).1
      = .error (.profile (.cyclic ["a", "b", "a"])) ∧
    ∃ cause, Fault.profile (.cyclic ["a", "b", "a"]) = .profile cause ∧
      (Fault.profile (.cyclic ["a", "b", "a"])).FoundFrom looped "top" := by
  have hread : ∀ k, ∃ text, KeyStore.get? looped k = .ok text := fun k => ⟨_, rfl⟩
  have hready := Inquiry.ready_after [.profiles ["c", "b"]] (Resolver.ready_fresh looped)
  have hfault := (hready.resolve_eq "top").trans resolveAlong_looped
  exact ⟨hread, hfault, resolve_fault_foundFrom looped hread _ "top" _ hfault⟩

end EnvProfiles
