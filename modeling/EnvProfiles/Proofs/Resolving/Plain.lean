import EnvProfiles.Proofs.Resolving.Derivation

/-!
# Plain Resolution

The recursion that a resolver is an economical form of. It remembers nothing, so
a profile is resolved again wherever it is named, and all it knows is the path
from the profile that was asked for. It is what the answers of a resolver are
compared with.

A plain resolution succeeds exactly if the profile has a derivation and leads to
nothing on the path, and then its result does not depend on the path. When it
fails, the fault it reports is real: it was found at a profile that the one
asked for leads to.

## Main definitions

* `gather`: Takes in what profiles come to, up to the first that fails.
* `resolveAlong`: Resolves a profile at the end of a path.
* `Fault.FoundFrom`: A fault is real, and a profile leads to where it is.

## Theorems

* `gather_eq_ok`, `gather_eq_error`: When a row of resolutions succeeds or fails.
* `resolveAlong_eq_ok`: Plain resolution succeeds where there is a derivation and
  no way back to the path.
* `foundFrom_of_resolveAlong`: The faults of plain resolution are real.
-/

namespace EnvProfiles

theorem map_eq_ok {ε α β : Type} {f : α → β} {x : Except ε α} {b : β} :
    x.map f = .ok b ↔ ∃ a, x = .ok a ∧ f a = b := by
  cases x with
  | error e => exact ⟨fun h => (nomatch h), fun ⟨_, h, _⟩ => (nomatch h)⟩
  | ok a => simp only [Except.map, Except.ok.injEq, exists_eq_left']

theorem map_eq_error {ε α β : Type} {f : α → β} {x : Except ε α} {e : ε} :
    x.map f = .error e ↔ x = .error e := by
  cases x <;> simp only [Except.map, Except.error.injEq, reduceCtorEq]

theorem eq_ok_of_toOption {ε α : Type} {x : Except ε α} {a : α} (h : x.toOption = some a) :
    x = .ok a := by
  cases x with
  | error e => exact nomatch h
  | ok b => exact congrArg Except.ok (Option.some.inj h)

/-- Takes in what profiles come to, one after the other, up to the first that cannot be resolved. -/
def gather (visit : String → Except Fault Resolution) (take : Dict → Resolution → Dict)
    (keys : List String) (taken : Dict) : Except Fault Dict :=
  keys.foldlM (fun taken key => (visit key).map (take taken)) taken

section Gather

variable {visit : String → Except Fault Resolution} {take : Dict → Resolution → Dict}
  {key : String} {keys : List String} {taken : Dict}

theorem gather_cons_ok {done : Resolution} (h : visit key = .ok done) :
    gather visit take (key :: keys) taken = gather visit take keys (take taken done) := by
  simp only [gather, List.foldlM_cons, h]
  rfl

theorem gather_cons_error {fault : Fault} (h : visit key = .error fault) :
    gather visit take (key :: keys) taken = .error fault := by
  simp only [gather, List.foldlM_cons, h]
  rfl

/-- A row of resolutions depends on what its profiles come to, and on nothing else. -/
theorem gather_congr {other : String → Except Fault Resolution}
    (h : ∀ key ∈ keys, visit key = other key) :
    gather visit take keys taken = gather other take keys taken := by
  induction keys generalizing taken with
  | nil => rfl
  | cons key keys ih =>
      have hrest : ∀ k ∈ keys, visit k = other k := fun k hk => h k (List.mem_cons_of_mem _ hk)
      have hkey := h key List.mem_cons_self
      cases hv : visit key with
      | ok done => rw [gather_cons_ok hv, gather_cons_ok (hkey.symm.trans hv), ih hrest]
      | error fault => rw [gather_cons_error hv, gather_cons_error (hkey.symm.trans hv)]

/-- A row of resolutions succeeds if each of them does. -/
theorem gather_eq_ok {found : String → Resolution} (h : ∀ key ∈ keys, visit key = .ok (found key)) :
    gather visit take keys taken
      = .ok (keys.foldl (fun taken key => take taken (found key)) taken) := by
  induction keys generalizing taken with
  | nil => rfl
  | cons key keys ih =>
      rw [gather_cons_ok (h key List.mem_cons_self), List.foldl_cons]
      exact ih fun k hk => h k (List.mem_cons_of_mem _ hk)

/-- If a row of resolutions succeeds, then each of them does. -/
theorem exists_of_gather_eq_ok {out : Dict} (h : gather visit take keys taken = .ok out) :
    ∃ found : String → Resolution, (∀ key ∈ keys, visit key = .ok (found key)) ∧
      out = keys.foldl (fun taken key => take taken (found key)) taken := by
  -- What each of them came to is what it comes to now.
  have hfound : ∀ key ∈ keys, visit key = .ok ((visit key).toOption.getD default) := by
    induction keys generalizing taken with
    | nil => exact fun _ hk => absurd hk List.not_mem_nil
    | cons key keys ih =>
        cases hv : visit key with
        | error fault =>
            rw [gather_cons_error hv] at h
            exact nomatch h
        | ok done =>
            rw [gather_cons_ok hv] at h
            intro k hk
            rcases List.mem_cons.mp hk with rfl | hk
            · rw [hv]
              rfl
            · exact ih h k hk
  exact ⟨_, hfound, Except.ok.inj (h.symm.trans (gather_eq_ok hfound))⟩

/-- A row of resolutions fails with the fault of the first that fails. -/
theorem gather_eq_error {fault : Fault} (h : gather visit take keys taken = .error fault) :
    ∃ before key after, keys = before ++ key :: after ∧ visit key = .error fault ∧
      ∀ k ∈ before, ∃ done, visit k = .ok done := by
  induction keys generalizing taken with
  | nil => exact nomatch h
  | cons key keys ih =>
      cases hv : visit key with
      | error other =>
          rw [gather_cons_error hv, Except.error.injEq] at h
          exact ⟨[], key, keys, rfl, h ▸ hv, fun _ hk => absurd hk List.not_mem_nil⟩
      | ok done =>
          rw [gather_cons_ok hv] at h
          obtain ⟨before, k, after, rfl, hk, hbefore⟩ := ih h
          refine ⟨key :: before, k, after, rfl, hk, fun k' hk' => ?_⟩
          rcases List.mem_cons.mp hk' with rfl | hk'
          · exact ⟨done, hv⟩
          · exact hbefore k' hk'

/-- A row of which some fail, and all with the same fault, fails with that fault. -/
theorem gather_eq_error_of_all {fault : Fault}
    (hall : ∀ key ∈ keys, (∃ done, visit key = .ok done) ∨ visit key = .error fault)
    (hsome : ∃ key ∈ keys, visit key = .error fault) :
    gather visit take keys taken = .error fault := by
  induction keys generalizing taken with
  | nil => exact absurd hsome.choose_spec.1 List.not_mem_nil
  | cons key keys ih =>
      rcases hall key List.mem_cons_self with ⟨done, hdone⟩ | herror
      · rw [gather_cons_ok hdone]
        refine ih (fun k hk => hall k (List.mem_cons_of_mem _ hk)) ?_
        obtain ⟨k, hk, hfault⟩ := hsome
        rcases List.mem_cons.mp hk with rfl | hk
        · exact nomatch hdone.symm.trans hfault
        · exact ⟨k, hk, hfault⟩
      · exact gather_cons_error herror

end Gather

variable {σ : Type} [KeyStore σ]

/-- Resolves the profile at the end of a path, and those it extends each anew. -/
def resolveAlong (store : σ) (path : List String) (key : String) : Except Fault Resolution :=
  if key ∈ path then .error (.profile (.cyclic (Resolver.cycle path key)))
  else
    match _hdoc : document store key with
    | .error fault => .error fault
    | .ok doc =>
      (gather (fun ancestor => resolveAlong store (path ++ [key]) ancestor) Dict.inherit
        doc.ancestors .empty).map doc.complete
termination_by Resolver.remaining (KeyStore.finite store).choose path
decreasing_by
  rename_i hp
  obtain ⟨text, htext, _⟩ := document_eq_ok.mp _hdoc
  exact Resolver.remaining_concat_lt ((KeyStore.finite store).choose_spec key text htext) hp

section Along

variable {store : σ} {path : List String} {key : String}

theorem resolveAlong_of_mem (h : key ∈ path) :
    resolveAlong store path key = .error (.profile (.cyclic (Resolver.cycle path key))) := by
  rw [resolveAlong, if_pos h]

theorem resolveAlong_unread {fault : Fault} (h : key ∉ path)
    (hd : document store key = .error fault) : resolveAlong store path key = .error fault := by
  rw [resolveAlong, if_neg h]
  split
  next other hother => rw [Except.error.inj (hother.symm.trans hd)]
  next doc hdoc => exact nomatch hdoc.symm.trans hd

theorem resolveAlong_read {doc : Document} (h : key ∉ path) (hd : document store key = .ok doc) :
    resolveAlong store path key = (gather (resolveAlong store (path ++ [key])) Dict.inherit
      doc.ancestors .empty).map doc.complete := by
  rw [resolveAlong, if_neg h]
  split
  next fault hfault => exact nomatch hfault.symm.trans hd
  next other hother =>
    have heq : other = doc := Except.ok.inj (hother.symm.trans hd)
    subst heq
    rfl

/-- A plain resolution that succeeds is a derivation, and the profile does not lead back to the
path. -/
theorem resolves_of_resolveAlong {res : Resolution} (h : resolveAlong store path key = .ok res) :
    Resolves store key res ∧ ∀ k, Reaches store key k → k ∉ path := by
  fun_induction resolveAlong store path key generalizing res with
  | case1 path key hp => exact nomatch h
  | case2 path key hp fault hd => exact nomatch h
  | case3 path key hp doc hd ih =>
      obtain ⟨inherited, hgather, hres⟩ := map_eq_ok.mp h
      obtain ⟨found, hfound, rfl⟩ := exists_of_gather_eq_ok hgather
      refine ⟨hres ▸ .intro hd fun a ha => (ih a (hfound a ha)).1, fun k hk => ?_⟩
      -- Whatever the profile leads to is itself or comes after an ancestor.
      rcases Relation.ReflTransGen.cases_head hk with rfl | ⟨a, hext, hrest⟩
      · exact hp
      · have ha := hfound a (hext.mem_ancestors hd)
        exact fun hc => (ih a ha).2 k hrest (List.mem_append_left _ hc)

/-- If a profile that has a derivation does not lead back to the path, then its ancestors do not
lead back to the path that it is on as well. -/
theorem Resolves.not_mem_path_of_extends {res : Resolution} {ancestor : String}
    (h : Resolves store key res) (hpath : ∀ k, Reaches store key k → k ∉ path)
    (hext : Extends store key ancestor) : ∀ k, Reaches store ancestor k → k ∉ path ++ [key] := by
  intro k hk hc
  rcases List.mem_append.mp hc with hc | hc
  · exact hpath k (.head hext hk) hc
  · -- An ancestor that led back to the profile would make it circular.
    rw [List.mem_singleton.mp hc] at hk
    exact h.not_circular (.head' hext hk)

/-- A profile that has a derivation and does not lead back to the path is resolved. -/
theorem Resolves.resolveAlong_eq {res : Resolution} (h : Resolves store key res)
    (hpath : ∀ k, Reaches store key k → k ∉ path) : resolveAlong store path key = .ok res := by
  induction h generalizing path with
  | @intro key doc found hd hfound ih =>
      have hall : ∀ a ∈ doc.ancestors, resolveAlong store (path ++ [key]) a = .ok (found a) :=
        fun a ha => ih a ha
          ((Resolves.intro hd hfound).not_mem_path_of_extends hpath ⟨doc, hd, ha⟩)
      rw [resolveAlong_read (hpath key .refl) hd, gather_eq_ok hall]
      rfl

/-- Plain resolution succeeds where there is a derivation and no way back to the path. -/
theorem resolveAlong_eq_ok {res : Resolution} :
    resolveAlong store path key = .ok res ↔
      Resolves store key res ∧ ∀ k, Reaches store key k → k ∉ path :=
  ⟨resolves_of_resolveAlong, fun h => h.1.resolveAlong_eq h.2⟩

/-- With no path to lead back to, there is a derivation or there is not. -/
theorem resolveAlong_nil_eq_ok {res : Resolution} :
    resolveAlong store [] key = .ok res ↔ Resolves store key res := by
  rw [resolveAlong_eq_ok, and_iff_left fun _ _ => List.not_mem_nil]

end Along

/-! ### The faults of plain resolution -/

/-- A fault is real, and a profile leads to where it is. -/
def Fault.FoundFrom (store : σ) (start : String) : Fault → Prop
  | .profile (.notFound key) => Reaches store start key ∧ KeyStore.get? store key = .ok none
  | .profile (.unreadable key cause) => Reaches store start key ∧
    ∃ text, KeyStore.get? store key = .ok (some text) ∧
      Document.parse key text = .error (.unreadable key cause)
  | .profile (.cyclic circle) => IsCircle store circle ∧
    ∃ key, circle.head? = some key ∧ Reaches store start key
  | .store cause => ∃ key, Reaches store start key ∧ KeyStore.get? store key = .error cause
  | _ => False

/-- A profile that cannot be read is at fault itself. -/
theorem foundFrom_of_document {store : σ} {start key : String} {fault : Fault}
    (hr : Reaches store start key) (hd : document store key = .error fault) :
    fault.FoundFrom store start := by
  unfold document at hd
  split at hd
  next cause hget =>
    rw [← Except.error.inj hd]
    exact ⟨key, hr, hget⟩
  next hget =>
    rw [← Except.error.inj hd]
    exact ⟨hr, hget⟩
  next text hget =>
    cases hp : Document.parse key text with
    | ok doc =>
        rw [hp] at hd
        exact nomatch hd
    | error cause =>
        rw [hp] at hd
        rw [← Except.error.inj hd]
        -- The text was found, so the fault is that of its document.
        obtain ⟨inner, _, rfl⟩ := Document.parse_eq_error.mp hp
        exact ⟨hr, text, hget, hp⟩

/-- The faults of plain resolution are real. -/
theorem foundFrom_of_resolveAlong {store : σ} {start key : String} {path : List String}
    {fault : Fault} (ht : Trail store start path key)
    (h : resolveAlong store path key = .error fault) : fault.FoundFrom store start := by
  fun_induction resolveAlong store path key with
  | case1 path key hp =>
      rw [← Except.error.inj h]
      exact ⟨ht.isCircle_cycle hp, key, Resolver.head?_cycle hp, ht.reaches⟩
  | case2 path key hp other hd =>
      exact foundFrom_of_document ht.reaches (hd.trans (Except.error.inj h ▸ rfl))
  | case3 path key hp doc hd ih =>
      -- The fault is that of an ancestor, to which the trail goes on.
      obtain ⟨before, a, after, hkeys, ha, _⟩ := gather_eq_error (map_eq_error.mp h)
      have hmem : a ∈ doc.ancestors := hkeys ▸ List.mem_append_right _ List.mem_cons_self
      exact ih a (ht.enter hp ⟨doc, hd, hmem⟩) ha

end EnvProfiles
