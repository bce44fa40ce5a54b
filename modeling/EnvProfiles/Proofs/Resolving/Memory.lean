import EnvProfiles.Proofs.Resolving.Plain

/-!
# What a Resolver Remembers

A resolver looks into its memory before it looks at its path, and what it finds
there may have been put there while other profiles were being resolved, or by a
call that failed in the end. That this never changes an answer rests on one fact
about the memory: a profile that is remembered has a derivation. It therefore
does not lead back to itself, and so it cannot lead back to any profile of the
trail by which the resolver has just come to it. Plain resolution would have
succeeded there as well.

`Sound` is what holds between calls and in the midst of them. Its second half,
that the ancestors of a remembered profile are remembered too, is not needed for
the answers but for counting how often the store is asked.

## Main definitions

* `Resolver.Knows`: A profile is remembered.
* `Resolver.Retains`: What one resolver remembers, another does too.
* `Resolver.Sound`: What is remembered has a derivation.

## Theorems

* `retains_visit`, `retains_visitEach`: Nothing is forgotten.
* `remembers_visit`, `remembers_visitEach`: What was resolved is remembered.
* `Sound.of_reaches`: Whatever a remembered profile leads to is remembered.
* `resolveAlong_of_memo`: What is remembered is what plain resolution finds.
* `refines`: A resolver answers as plain resolution does.
-/

namespace EnvProfiles

namespace Resolver

variable {σ : Type} [KeyStore σ]

/-! ### What stays in memory -/

@[simp] theorem lookup_remember (r : Resolver) (key k : String) (done : Resolution) :
    (r.remember key done).memo.lookup k = if k = key then some done else r.memo.lookup k := by
  by_cases h : k = key
  · rw [if_pos h, h]
    exact List.lookup_cons_self
  · rw [if_neg h, remember, List.lookup_cons, beq_eq_false_iff_ne.mpr h]

/-- A profile is remembered. -/
def Knows (r : Resolver) (key : String) : Prop := ∃ done, r.memo.lookup key = some done

@[simp] theorem knows_remember {r : Resolver} {key k : String} {done : Resolution} :
    (r.remember key done).Knows k ↔ k = key ∨ r.Knows k := by
  unfold Knows
  rw [lookup_remember]
  split
  next h => exact ⟨fun _ => .inl h, fun _ => ⟨done, rfl⟩⟩
  next h => exact (or_iff_right h).symm

/-- A profile that has to be expanded is not remembered. -/
theorem Unseen.not_knows {r : Resolver} {key : String} (h : r.Unseen key) : ¬ r.Knows key :=
  fun ⟨_, hdone⟩ => nomatch h.memo.symm.trans hdone

/-- What one resolver remembers, the other does too. -/
def Retains (r r' : Resolver) : Prop :=
  ∀ key done, r.memo.lookup key = some done → r'.memo.lookup key = some done

theorem Retains.knows {r r' : Resolver} {key : String} (h : Retains r r') (hk : r.Knows key) :
    r'.Knows key := by
  obtain ⟨done, hdone⟩ := hk
  exact ⟨done, h key done hdone⟩

/-- To remember one more profile is not to forget another. -/
theorem Retains.remember {r r' : Resolver} {key : String} {done : Resolution}
    (h : Retains r r') (hnew : r.memo.lookup key = none) : Retains r (r'.remember key done) := by
  intro k found hk
  rw [lookup_remember, if_neg fun hc => ?_]
  · exact h k found hk
  · rw [hc, hnew] at hk
    exact nomatch hk

/-- What has to be expanded now had to be expanded before. -/
theorem Unseen.of_retains {r r' : Resolver} {key : String} (h : r'.Unseen key)
    (hkept : Retains r r') (hpath : r'.path = r.path) : r.Unseen key := by
  refine ⟨?_, hpath ▸ h.path⟩
  cases hm : r.memo.lookup key with
  | none => rfl
  | some done => exact absurd (hkept.knows ⟨done, hm⟩) h.not_knows

/-- Nothing is forgotten, not even by a call that fails. -/
theorem retained (store : σ) :
    (∀ key r out, visit store key r = some out → Retains r out.2) ∧
      ∀ take keys taken r out, visitEach store take keys taken r = some out →
        Retains r out.2 := by
  refine visit_induction store (fun _ r out => Retains r out.2)
    (fun _ _ _ r out => Retains r out.2)
    ?known ?closing ?unread ?failed ?resolved ?nil ?stop ?next
  case known => intro key r done _ k found hk; exact hk
  case closing => intro key r _ _ k found hk; exact hk
  case unread => intro key r fault _ _ k found hk; exact hk
  case failed => intro key r doc fault r' _ _ _ h; exact h
  case resolved => intro key r doc inherited r' hu _ _ h; exact Retains.remember h hu.memo
  case nil => intro take taken r k found hk; exact hk
  case stop => intro take key keys taken r fault r' _ h; exact h
  case next =>
    intro take key keys taken r done r' out _ hv _ he k found hk
    exact he k found (hv k found hk)

theorem retains_visit {store : σ} {key : String} {r : Resolver} {out : Outcome Resolution}
    (h : visit store key r = some out) : Retains r out.2 :=
  (retained store).1 key r out h

theorem retains_visitEach {store : σ} {take : Dict → Resolution → Dict} {keys : List String}
    {taken : Dict} {r : Resolver} {out : Outcome Dict}
    (h : visitEach store take keys taken r = some out) : Retains r out.2 :=
  (retained store).2 take keys taken r out h

/-- What was resolved is remembered. -/
theorem remembers_visit {store : σ} {key : String} {r r' : Resolver} {done : Resolution}
    (h : visit store key r = some (.ok done, r')) : r'.memo.lookup key = some done := by
  cases hm : r.memo.lookup key with
  | some found =>
      rw [visit_known hm] at h
      cases h
      exact hm
  | none =>
      by_cases hp : key ∈ r.path
      · rw [visit_closing hm hp] at h
        cases h
      · rw [visit_unseen ⟨hm, hp⟩] at h
        -- A profile that was expanded was remembered last of all.
        obtain ⟨⟨result, s⟩, _, hout⟩ := Option.map_eq_some_iff.mp h
        cases result with
        | error fault => cases hout
        | ok found =>
            cases hout
            exact (lookup_remember _ _ _ _).trans (if_pos rfl)

theorem remembers_visitEach {store : σ} {take : Dict → Resolution → Dict} {keys : List String}
    {taken out : Dict} {r r' : Resolver}
    (h : visitEach store take keys taken r = some (.ok out, r')) :
    ∀ key ∈ keys, r'.Knows key := by
  induction keys generalizing taken r with
  | nil => exact fun _ hk => absurd hk List.not_mem_nil
  | cons key keys ih =>
      obtain ⟨⟨result, s⟩, hv⟩ := exists_visit store key r
      cases result with
      | error fault =>
          rw [visitEach_stop hv] at h
          cases h
      | ok done =>
          rw [visitEach_next hv] at h
          intro k hk
          rcases List.mem_cons.mp hk with rfl | hk
          · -- What is known after the first key stays known through the others.
            exact (retains_visitEach h).knows ⟨done, remembers_visit hv⟩
          · exact ih h k hk

/-! ### What is remembered is right -/

/-- What is remembered has a derivation, and its ancestors are remembered too. -/
structure Sound (store : σ) (r : Resolver) : Prop where
  resolves : ∀ key done, r.memo.lookup key = some done → Resolves store key done
  closed : ∀ key ancestor, r.Knows key → Extends store key ancestor → r.Knows ancestor

theorem sound_fresh (store : σ) : fresh.Sound store :=
  ⟨fun _ _ h => (nomatch h), fun _ _ ⟨_, h⟩ => (nomatch h)⟩

/-- Only the memory matters. -/
theorem Sound.of_memo_eq {store : σ} {r r' : Resolver} (h : r.Sound store)
    (hm : r'.memo = r.memo) : r'.Sound store := by
  refine ⟨fun key done hk => h.resolves key done (hm ▸ hk), fun key a hk hext => ?_⟩
  unfold Knows at hk ⊢
  rw [hm] at hk ⊢
  exact h.closed key a hk hext

/-- A profile may be remembered once its ancestors are. -/
theorem Sound.remember {store : σ} {r : Resolver} {key : String} {doc : Document}
    {done : Resolution} (h : r.Sound store) (hd : document store key = .ok doc)
    (hres : Resolves store key done) (hall : ∀ a ∈ doc.ancestors, r.Knows a) :
    (r.remember key done).Sound store := by
  constructor
  · intro k found hk
    rw [lookup_remember] at hk
    split at hk
    next heq => rw [heq, ← Option.some.inj hk]; exact hres
    next => exact h.resolves k found hk
  · intro k a hk hext
    rw [knows_remember] at hk ⊢
    rcases hk with rfl | hk
    · exact .inr (hall a (hext.mem_ancestors hd))
    · exact .inr (h.closed k a hk hext)

/-- The memory of a sound resolver has all that a remembered profile leads to. -/
theorem Sound.of_reaches {store : σ} {r : Resolver} {key k : String} (h : r.Sound store)
    (hk : r.Knows key) (hr : Reaches store key k) : r.Knows k := by
  induction hr with
  | refl => exact hk
  | @tail b c _ hext ih => exact h.closed b c ih hext

/-- A remembered profile to which a trail leads would have been resolved there as well: it leads to
no profile of the trail, since that would lead back to it. -/
theorem resolveAlong_of_memo {store : σ} {start key : String} {r : Resolver} {done : Resolution}
    (hs : r.Sound store) (ht : Trail store start r.path key)
    (hm : r.memo.lookup key = some done) : resolveAlong store r.path key = .ok done := by
  have hres := hs.resolves key done hm
  refine hres.resolveAlong_eq fun k hk hc => hres.not_circular ?_
  exact Relation.TransGen.trans_right hk (ht.leads hc)

/-- A resolver that came to profiles by some trail answers as plain resolution does, and what it
remembers stays right. -/
theorem refines (store : σ) :
    (∀ key r out, visit store key r = some out →
      (∃ start, Trail store start r.path key) → r.Sound store →
        out.1 = resolveAlong store r.path key ∧ out.2.Sound store) ∧
      ∀ take keys taken r out, visitEach store take keys taken r = some out →
        (∀ key ∈ keys, ∃ start, Trail store start r.path key) → r.Sound store →
          out.1 = gather (resolveAlong store r.path) take keys taken ∧ out.2.Sound store := by
  refine visit_induction store
    (fun key r out => (∃ start, Trail store start r.path key) → r.Sound store →
      out.1 = resolveAlong store r.path key ∧ out.2.Sound store)
    (fun take keys taken r out => (∀ key ∈ keys, ∃ start, Trail store start r.path key) →
      r.Sound store →
        out.1 = gather (resolveAlong store r.path) take keys taken ∧ out.2.Sound store)
    ?known ?closing ?unread ?failed ?resolved ?nil ?stop ?next
  case known =>
    intro key r done hm ⟨start, ht⟩ hs
    exact ⟨(resolveAlong_of_memo hs ht hm).symm, hs⟩
  case closing =>
    intro key r _ hp _ hs
    exact ⟨(resolveAlong_of_mem hp).symm, hs⟩
  case unread =>
    intro key r fault hu hd _ hs
    exact ⟨(resolveAlong_unread hu.path hd).symm, hs.of_memo_eq rfl⟩
  case failed =>
    intro key r doc fault r' hu hd _ hon ⟨start, ht⟩ hs
    obtain ⟨hout, hs'⟩ := hon (fun a ha => ⟨start, ht.enter hu.path ⟨doc, hd, ha⟩⟩)
      (hs.of_memo_eq rfl)
    rw [opened_path] at hout
    exact ⟨by rw [resolveAlong_read hu.path hd, ← hout]; rfl, hs'.of_memo_eq rfl⟩
  case resolved =>
    intro key r doc inherited r' hu hd hr hon ⟨start, ht⟩ hs
    obtain ⟨hout, hs'⟩ := hon (fun a ha => ⟨start, ht.enter hu.path ⟨doc, hd, ha⟩⟩)
      (hs.of_memo_eq rfl)
    rw [opened_path] at hout
    have hplain : resolveAlong store r.path key = .ok (doc.complete inherited) := by
      rw [resolveAlong_read hu.path hd, ← hout]
      rfl
    -- All ancestors are remembered by now, so the profile may be.
    have hsound := hs'.remember hd (resolves_of_resolveAlong hplain).1 (remembers_visitEach hr)
    exact ⟨hplain.symm, hsound.of_memo_eq rfl⟩
  case nil =>
    intro take taken r _ hs
    exact ⟨rfl, hs⟩
  case stop =>
    intro take key keys taken r fault r' _ hon ht hs
    obtain ⟨hout, hs'⟩ := hon (ht key List.mem_cons_self) hs
    exact ⟨(gather_cons_error hout.symm).symm, hs'⟩
  case next =>
    intro take key keys taken r done r' out hv hon _ hrest ht hs
    obtain ⟨hout, hs'⟩ := hon (ht key List.mem_cons_self) hs
    have hpath : r'.path = r.path := visit_path hv
    -- The path is as it was, so the rest of the row is resolved along the same one.
    rw [hpath] at hrest
    rw [gather_cons_ok hout.symm]
    exact hrest (fun k hk => ht k (List.mem_cons_of_mem _ hk)) hs'

end Resolver

end EnvProfiles
