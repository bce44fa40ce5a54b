import EnvProfiles.Proofs.Resolving.Nesting

/-!
# The Effort of Resolving

What a call costs, whatever the texts of the store say. It ends; its path stays
short; and it asks for no text twice.

The last is not true of a resolver in general. A profile that could not be
resolved is forgotten, and a later call asks for its text again. Within one call
it is true because a profile that has been asked for is from then on either on
the path, or remembered, or the one at fault, and then the call is over. What
carries the argument through a row of profiles is therefore that all which was
asked for on behalf of a resolved profile is remembered.

A successful call that starts with nothing remembered asks for exactly what it
was given and all that this leads to.

## Main definitions

* `Resolver.Asks`: One resolver has come from another by asking for some keys.
* `Resolver.Frugal`: A call has asked for no key twice.
* `Inquiry.Ends`: A call comes to an end.

## Theorems

* `Resolver.frugal`: A call asks for no key twice, and remembers what it asked for
  if it succeeds.
* `Resolver.asked_iff_reaches`: What a successful first call asks for.
* `Inquiry.effort_bounded`: Calls end, within bounds for the path and the store.
-/

namespace EnvProfiles

variable {σ : Type} [KeyStore σ]

namespace Resolver

/-- One resolver has come from another by asking for some keys, each of them once and none of them
known or on the path at the time. It remembers nothing else that is new. -/
structure Asks (r r' : Resolver) (new : List String) : Prop where
  asked : r'.asked = new ++ r.asked
  nodup : new.Nodup
  unseen : ∀ k ∈ new, r.Unseen k
  remembered : ∀ k, r'.Knows k → r.Knows k ∨ k ∈ new

/-- A call has asked for no key twice, and if it has succeeded then all that it asked for is
remembered. -/
def Frugal {α : Type} (r : Resolver) (out : Outcome α) : Prop :=
  ∃ new, Asks r out.2 new ∧ ∀ done, out.1 = .ok done → ∀ k ∈ new, out.2.Knows k

namespace Asks

variable {r r' r'' : Resolver} {new more : List String} {key : String}

theorem none (r : Resolver) : Asks r r [] :=
  ⟨rfl, List.nodup_nil, fun _ hk => absurd hk List.not_mem_nil, fun _ hk => .inl hk⟩

/-- A profile that is expanded is asked for before anything else, and not again, since it is on the
path. -/
theorem leave (h : Asks (r.opened key) r' new) (hu : r.Unseen key) :
    Asks r r'.leave (new ++ [key]) := by
  -- While it is expanded, the profile is on the path, and so it is not unseen.
  have hnew : key ∉ new := fun hk =>
    (h.unseen key hk).path (List.mem_append_right _ (List.mem_singleton_self key))
  refine ⟨?_, ?_, fun k hk => ?_, fun k hk => ?_⟩
  · rw [List.append_assoc]
    exact h.asked
  · exact h.nodup.append (List.nodup_singleton _) (List.disjoint_singleton.mpr hnew)
  · rcases List.mem_append.mp hk with hk | hk
    · exact ⟨(h.unseen k hk).memo, fun hc => (h.unseen k hk).path (List.mem_append_left _ hc)⟩
    · exact List.mem_singleton.mp hk ▸ hu
  · exact (h.remembered k hk).imp_right (List.mem_append_left _)

/-- What has been asked for may be remembered. -/
theorem remember {done : Resolution} (h : Asks r r' new) (hk : key ∈ new) :
    Asks r (r'.remember key done) new := by
  refine ⟨h.asked, h.nodup, h.unseen, fun k hknown => ?_⟩
  rcases knows_remember.mp hknown with rfl | hknown
  · exact .inr hk
  · exact h.remembered k hknown

/-- What was asked for and is remembered is not asked for again. -/
theorem trans (h : Asks r r' new) (h' : Asks r' r'' more) (hpath : r'.path = r.path)
    (hkept : Retains r r') (hknown : ∀ k ∈ new, r'.Knows k) : Asks r r'' (more ++ new) := by
  -- The second part asks only for what is not remembered, and the first part has been.
  have hdisjoint : more.Disjoint new := fun k hk hc => (h'.unseen k hk).not_knows (hknown k hc)
  refine ⟨?_, h'.nodup.append h.nodup hdisjoint, fun k hk => ?_, fun k hk => ?_⟩
  · rw [h'.asked, h.asked, List.append_assoc]
  · rcases List.mem_append.mp hk with hk | hk
    · exact (h'.unseen k hk).of_retains hkept hpath
    · exact h.unseen k hk
  · rcases h'.remembered k hk with hk | hk
    · exact (h.remembered k hk).imp_right (List.mem_append_right _)
    · exact .inr (List.mem_append_left _ hk)

end Asks

/-- A call asks for no key twice, and if it succeeds then what it asked for is remembered. -/
theorem frugal (store : σ) :
    (∀ key r out, visit store key r = some out → Frugal r out) ∧
      ∀ take keys taken r out, visitEach store take keys taken r = some out → Frugal r out := by
  -- Only a success says anything of what is known after it: a failed visit leaves no memory.
  refine visit_induction store (fun _ r out => Frugal r out) (fun _ _ _ r out => Frugal r out)
    ?known ?closing ?unread ?failed ?resolved ?nil ?stop ?next
  case known =>
    intro key r done _
    exact ⟨[], .none r, fun _ _ _ hk => absurd hk List.not_mem_nil⟩
  case closing =>
    intro key r _ _
    exact ⟨[], .none r, fun _ h => nomatch h⟩
  case unread =>
    intro key r fault hu _
    exact ⟨[key], opened_leave r key ▸ (Asks.none (r.opened key)).leave hu, fun _ h => nomatch h⟩
  case failed =>
    intro key r doc fault r' hu _ _ ⟨new, h, _⟩
    exact ⟨new ++ [key], h.leave hu, fun _ h => nomatch h⟩
  case resolved =>
    intro key r doc inherited r' hu _ _ ⟨new, h, hknown⟩
    refine ⟨new ++ [key], ?_, fun _ _ k hk => knows_remember.mpr ?_⟩
    · exact (h.leave hu).remember (List.mem_append_right _ (List.mem_singleton_self key))
    · rcases List.mem_append.mp hk with hk | hk
      · exact .inr (hknown inherited rfl k hk)
      · exact .inl (List.mem_singleton.mp hk)
  case nil =>
    intro take taken r
    exact ⟨[], .none r, fun _ _ _ hk => absurd hk List.not_mem_nil⟩
  case stop =>
    intro take key keys taken r fault r' _ ⟨new, h, _⟩
    exact ⟨new, h, fun _ h => nomatch h⟩
  case next =>
    intro take key keys taken r done r' out hv ⟨new, h, hknown⟩ hr ⟨more, h', hknown'⟩
    have hall := hknown done rfl
    have hasks := h.trans h' (visit_path hv) (retains_visit hv) hall
    refine ⟨more ++ new, hasks, fun res hres k hk => ?_⟩
    rcases List.mem_append.mp hk with hk | hk
    · exact hknown' res hres k hk
    · exact (retains_visitEach hr).knows (hall k hk)

/-- A successful call that starts with nothing remembered asks for what it was given and all that
this leads to, and for nothing else. -/
theorem asked_iff_reaches {store : σ} {keys : List String} {exported : Dict} {r : Resolver}
    (h : resolveMany store keys .fresh = (.ok exported, r)) (k : String) :
    k ∈ r.asked ↔ ∃ key ∈ keys, Reaches store key k := by
  have hv : visitEach store Dict.collect keys .empty .fresh = some (.ok exported, r) :=
    h ▸ visitEach_eq_resolveMany store keys .fresh
  constructor
  · intro hk
    rcases (visits_of_asked store).2 _ _ _ _ _ hv k hk with hk | ⟨s, hs⟩
    · exact absurd hk List.not_mem_nil
    · exact hs.reaches
  · rintro ⟨key, hkey, hreach⟩
    -- The memory is closed under ancestors, and nothing is remembered that was not asked for.
    have hsound := ((ready_fresh store).visitEach_eq hv).2.sound
    have hknown := hsound.of_reaches (remembers_visitEach hv key hkey) hreach
    obtain ⟨new, hnew, _⟩ := (frugal store).2 _ _ _ _ _ hv
    rcases hnew.remembered k hknown with ⟨found, hfound⟩ | hmem
    · exact nomatch hfound
    · exact hnew.asked ▸ List.mem_append_left _ hmem

end Resolver

namespace Inquiry

/-- A call comes to an end. -/
def Ends (store : σ) (r : Resolver) : Inquiry → Prop
  | profile key => ∃ out, Resolver.visit store key r = some out
  | profiles keys => ∃ out, Resolver.visitEach store Dict.collect keys .empty r = some out

theorem ends (store : σ) (r : Resolver) (call : Inquiry) : call.Ends store r := by
  cases call with
  | profile key => exact Resolver.exists_visit store key r
  | profiles keys => exact Resolver.exists_visitEach store Dict.collect keys .empty r

/-- A call asks for no key twice. -/
theorem exists_asks (store : σ) (r : Resolver) (call : Inquiry) :
    ∃ new, Resolver.Asks r (call.answer store r).2 new := by
  cases call with
  | profile key =>
      obtain ⟨new, h, _⟩ := (Resolver.frugal store).1 _ _ _ (Resolver.visit_eq_resolve store key r)
      exact ⟨new, h⟩
  | profiles keys =>
      obtain ⟨new, h, _⟩ :=
        (Resolver.frugal store).2 _ _ _ _ _ (Resolver.visitEach_eq_resolveMany store keys r)
      exact ⟨new, h⟩

/-- Whatever the texts of a store say and whatever a resolver was asked before, a call ends. In its
course no profile is on the path twice, the path is at most one longer than the store is large, and
no text is asked for twice. If several profiles are resolved with nothing remembered, then the texts
that are asked for are those of the profiles and of all that they lead to. -/
theorem effort_bounded (store : σ) (calls : List Inquiry) (call : Inquiry) :
    call.Ends store (after store calls .fresh) ∧
    (∀ s, Moment store call (after store calls .fresh) s →
      s.path.Nodup ∧ s.path.length ≤ (stored store).card + 1) ∧
    (∃ new, (call.answer store (after store calls .fresh)).2.asked
      = new ++ (after store calls .fresh).asked ∧ new.Nodup) ∧
    ∀ keys exported r, Resolver.resolveMany store keys .fresh = (.ok exported, r) →
      ∀ k, k ∈ r.asked ↔ ∃ key ∈ keys, Reaches store key k := by
  have hready := ready_after calls (Resolver.ready_fresh store)
  refine ⟨call.ends store _, fun s hs => ?_, ?_, fun keys exported r h => ?_⟩
  · exact hs.path_bounded fun key _ => hready.exists_trail key
  · obtain ⟨new, hnew⟩ := call.exists_asks store (after store calls .fresh)
    exact ⟨new, hnew.asked, hnew.nodup⟩
  · exact Resolver.asked_iff_reaches h

end Inquiry

end EnvProfiles
