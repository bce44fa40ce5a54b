import EnvProfiles.Proofs.Resolving.Effort
import EnvProfiles.Proofs.Resolving.Solution

/-!
# Coherence of a Resolver

What holds of a resolver at every moment, and not only between two calls. In the
midst of a call there are profiles on the path of which some ancestors have been
resolved and others not, and there is a memory that was filled on behalf of
profiles which may yet fail. The two never meet: what is on the path is not
remembered, and what is remembered does not lead back to the path.

That they stay apart is not seen from what a single step does, since a profile
is put into the memory when it has already left the path. It follows from what
was asked for. A call remembers nothing new that it has not asked for, and it
asks for nothing that was on the path when it began. A profile that is being
resolved is on the path of all calls that are made on its behalf, so none of
them remembers it; this is also why a profile that fails is not remembered.

## Main definitions

* `Resolver.Coherent`: What holds of a resolver at every moment.
* `Resolver.Arrived`: A resolver has come to a profile, with path and memory
  apart.

## Theorems

* `Frugal.not_knows`: A call remembers no profile of the path that it was made
  from.
* `not_knows_of_error`: A profile that fails is not remembered.
* `Visits.arrived`: All visits of a call begin with path and memory apart.
* `coherent_throughout`: Every moment is coherent, and what a call leaves alone.
-/

namespace EnvProfiles

variable {σ : Type} [KeyStore σ]

namespace Resolver

/-! ### What a call does not remember -/

/-- A call remembers no profile of the path that it was made from. -/
theorem Frugal.not_knows {α : Type} {r : Resolver} {out : Outcome α} {k : String}
    (h : Frugal r out) (hp : k ∈ r.path) (hk : ¬ r.Knows k) : ¬ out.2.Knows k := by
  obtain ⟨new, hasks, _⟩ := h
  intro hc
  rcases hasks.remembered k hc with hc | hc
  · exact hk hc
  · exact (hasks.unseen k hc).path hp

/-- A profile that fails is not remembered. -/
theorem not_knows_of_error {store : σ} {key : String} {r r' : Resolver} {fault : Fault}
    (h : visit store key r = some (.error fault, r')) : ¬ r'.Knows key := by
  cases hm : r.memo.lookup key with
  | some done =>
      rw [visit_known hm] at h
      cases h
  | none =>
      have hnew : ¬ r.Knows key := fun ⟨_, hdone⟩ => nomatch hm.symm.trans hdone
      by_cases hp : key ∈ r.path
      · exact ((frugal store).1 key r _ h).not_knows hp hnew
      · have hu : r.Unseen key := ⟨hm, hp⟩
        cases hd : document store key with
        | error cause =>
            rw [visit_unread hu hd] at h
            cases h
            exact hnew
        | ok doc =>
            rw [visit_read hu hd] at h
            obtain ⟨⟨result, s⟩, hs, hout⟩ := Option.map_eq_some_iff.mp h
            cases result with
            | ok inherited => cases hout
            | error cause =>
                cases hout
                -- While its ancestors are resolved the profile is on the path.
                have hmem : key ∈ (r.opened key).path :=
                  List.mem_append_right _ (List.mem_singleton_self key)
                exact ((frugal store).2 _ _ _ _ _ hs).not_knows hmem hnew

/-! ### What holds at every moment -/

/-- What holds of a resolver at every moment. -/
structure Coherent (store : σ) (r : Resolver) : Prop where
  /-- No profile is on the path twice. -/
  distinct : r.path.Nodup
  /-- Each profile of the path names the next. -/
  linked : r.path.IsChain (Extends store)
  /-- No profile of the path is remembered. -/
  apart : ∀ key ∈ r.path, ¬ r.Knows key
  /-- A remembered profile can be read, and the profiles that it names are remembered too. -/
  closed : ∀ key, r.Knows key →
    ∃ doc, document store key = .ok doc ∧ ∀ ancestor ∈ doc.ancestors, r.Knows ancestor
  /-- No remembered profile leads back to itself. -/
  acyclic : ∀ key, r.Knows key → ¬ Circular store key
  /-- What is remembered of a profile is what a new resolver finds. -/
  faithful : ∀ key done, r.memo.lookup key = some done → resolveProfile store key = .ok done

/-- A resolver has come to a profile along a trail, with a sound memory that has nothing of the
path in it. -/
structure Arrived (store : σ) (key : String) (r : Resolver) : Prop where
  exists_trail : ∃ start, Trail store start r.path key
  sound : r.Sound store
  apart : ∀ k ∈ r.path, ¬ r.Knows k

/-- A resolver between two calls may go to any profile. -/
theorem Ready.arrived {store : σ} {r : Resolver} (h : r.Ready store) (key : String) :
    Arrived store key r := by
  refine ⟨h.exists_trail key, h.sound, fun k hk => ?_⟩
  rw [h.path] at hk
  exact absurd hk List.not_mem_nil

namespace Arrived

variable {store : σ} {key : String} {r : Resolver}

/-- What is on the path once the profile has been put there is not remembered. -/
theorem apart_opened (h : Arrived store key r) (hu : r.Unseen key) :
    ∀ k ∈ r.path ++ [key], ¬ r.Knows k := by
  intro k hk
  rcases List.mem_append.mp hk with hk | hk
  · exact h.apart k hk
  · exact List.mem_singleton.mp hk ▸ hu.not_knows

/-- From a profile that is expanded, a resolver goes to its ancestors. -/
theorem opened (h : Arrived store key r) (hu : r.Unseen key) {doc : Document}
    (hd : document store key = .ok doc) {ancestor : String} (ha : ancestor ∈ doc.ancestors) :
    Arrived store ancestor (r.opened key) := by
  obtain ⟨start, htrail⟩ := h.exists_trail
  exact ⟨⟨start, htrail.enter hu.path ⟨doc, hd, ha⟩⟩, h.sound.of_memo_eq rfl, h.apart_opened hu⟩

/-- From a profile that has been visited, a resolver goes to wherever it could have gone before. -/
theorem after {out : Outcome Resolution} (h : Arrived store key r)
    (hv : visit store key r = some out) {k : String} (hk : ∃ start, Trail store start r.path k) :
    Arrived store k out.2 := by
  have hpath : out.2.path = r.path := visit_path hv
  refine ⟨hpath ▸ hk, ((refines store).1 key r out hv h.exists_trail h.sound).2, ?_⟩
  intro p hp
  rw [hpath] at hp
  exact ((frugal store).1 key r out hv).not_knows hp (h.apart p hp)

/-- A resolver that has come to a profile is coherent. -/
theorem coherent (h : Arrived store key r) : r.Coherent store := by
  obtain ⟨start, htrail⟩ := h.exists_trail
  refine ⟨htrail.nodup, htrail.isChain.left_of_append, h.apart, ?_, ?_, ?_⟩
  · rintro k ⟨done, hk⟩
    obtain ⟨doc, hd⟩ := (h.sound.resolves k done hk).exists_document
    exact ⟨doc, hd, fun a ha => h.sound.closed k a ⟨done, hk⟩ ⟨doc, hd, ha⟩⟩
  · rintro k ⟨done, hk⟩
    exact (h.sound.resolves k done hk).not_circular
  · intro k done hk
    exact resolveProfile_eq_ok.mpr (h.sound.resolves k done hk)

/-- It stays so when the profile is put on the path. -/
theorem coherent_opened (h : Arrived store key r) (hu : r.Unseen key) :
    (r.opened key).Coherent store := by
  obtain ⟨start, htrail⟩ := h.exists_trail
  exact { h.coherent with
    distinct := htrail.nodup.append (List.nodup_singleton _) (List.disjoint_singleton.mpr hu.path)
    linked := htrail.isChain
    apart := h.apart_opened hu }

end Arrived

/-- Only the path and the memory matter. -/
theorem Coherent.of_eq {store : σ} {r r' : Resolver} (h : r.Coherent store)
    (hpath : r'.path = r.path) (hmemo : r'.memo = r.memo) : r'.Coherent store := by
  obtain ⟨path, memo, asked⟩ := r
  obtain ⟨_, _, asked'⟩ := r'
  subst hpath hmemo
  exact ⟨h.distinct, h.linked, h.apart, h.closed, h.acyclic, h.faithful⟩

end Resolver

/-- All visits that are made in the course of a call begin with path and memory apart, if the call
does. -/
theorem Visits.arrived {store : σ} {call : Inquiry} {key : String} {r s : Resolver}
    (h : Visits store call r key s) (hall : ∀ k ∈ call.keys, Resolver.Arrived store k r) :
    Resolver.Arrived store key s := by
  induction h with
  | @self key _ => exact hall key (List.mem_singleton_self key)
  | @ancestor key _ _ _ _ hu hd _ ih =>
      exact ih fun a ha => (hall key (List.mem_singleton_self key)).opened hu hd ha
  | first _ ih => exact ih fun k hk => hall k (List.mem_singleton.mp hk ▸ List.mem_cons_self)
  | @later key _ _ _ _ _ _ hv _ ih =>
      -- The trail of a later profile is as it was, since the path is; only the memory has grown.
      refine ih fun k hk => (hall key List.mem_cons_self).after hv ?_
      exact (hall k (List.mem_cons_of_mem _ hk)).exists_trail

/-- Every moment of a call is coherent, if the call begins with path and memory apart. -/
theorem Moment.coherent {store : σ} {call : Inquiry} {r s : Resolver} (h : Moment store call r s)
    (hall : ∀ k ∈ call.keys, Resolver.Arrived store k r) : s.Coherent store := by
  cases h with
  | entry hv => exact (hv.arrived hall).coherent
  | entered hv hu => exact ((hv.arrived hall).coherent_opened hu).of_eq rfl rfl
  | opened hv hu => exact (hv.arrived hall).coherent_opened hu
  | exit hv hout =>
      have harrived := hv.arrived hall
      exact (harrived.after hout harrived.exists_trail).coherent

namespace Resolver

/-- Whatever a resolver has been asked before, it is coherent at every moment of a call, at the
start and at the end of each visit, however deeply nested: no profile is on the path twice, each
names the next, and none of them is remembered; with a remembered profile all that it names are
remembered, none leads back to itself, and what is remembered is what a new resolver finds. Every
call, made of any resolver, leaves the path as it was and all that is remembered as it was, and a
profile that fails is not remembered. -/
theorem coherent_throughout (store : σ) (calls : List Inquiry) (call : Inquiry) :
    (∀ s, Moment store call (Inquiry.after store calls .fresh) s → s.Coherent store) ∧
    (∀ key r, (resolve store key r).2.path = r.path ∧ Retains r (resolve store key r).2 ∧
      ∀ fault, (resolve store key r).1 = .error fault → ¬ (resolve store key r).2.Knows key) ∧
    ∀ keys r, (resolveMany store keys r).2.path = r.path ∧
      Retains r (resolveMany store keys r).2 := by
  have hready := Inquiry.ready_after calls (ready_fresh store)
  refine ⟨fun s hs => hs.coherent fun key _ => hready.arrived key, fun key r => ?_,
    fun keys r => ?_⟩
  · have hvisit := visit_eq_resolve store key r
    refine ⟨visit_path hvisit, retains_visit hvisit, fun fault hfault => ?_⟩
    have hfailed : visit store key r = some (.error fault, (resolve store key r).2) := by
      rw [hvisit, ← hfault]
    exact not_knows_of_error hfailed
  · have hvisits := visitEach_eq_resolveMany store keys r
    exact ⟨visitEach_path hvisits, retains_visitEach hvisits⟩

end Resolver

end EnvProfiles
