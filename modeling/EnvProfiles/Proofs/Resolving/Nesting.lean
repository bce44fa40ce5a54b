import EnvProfiles.Proofs.Resolving.History

/-!
# Nested Calls

A call on a resolver calls the resolver again, for every ancestor it comes to,
and what can be said of a run has to be said of all these calls. `Visits` is the
relation between a call and the calls nested in it, at any depth: it follows the
order in which a resolver goes about things, so an ancestor is only visited if
those before it have been resolved, and with the resolver that they left behind.

Whatever profile is visited, the resolver has come to it by a trail, and hence
the path is never longer than the store allows. It is at its longest when it has
just been given a profile that has no text.

## Main definitions

* `Visits`: The calls that are made in the course of a call.
* `Moment`: The resolvers that a call passes through.

## Theorems

* `Visits.reaches`: Only what a call leads to is visited.
* `Visits.exists_trail`: A profile that is visited is at the end of a trail.
* `visits_of_asked`: No text is asked for but that of a visited profile.
* `Moment.path_bounded`: No profile is on the path twice, and the path is at most
  one longer than the store is large.
-/

namespace EnvProfiles

variable {σ : Type} [KeyStore σ]

/-- The profiles that are asked for. -/
def Inquiry.keys : Inquiry → List String
  | profile key => [key]
  | profiles keys => keys

/-- In the course of a call on one resolver, a profile is visited with another. -/
inductive Visits (store : σ) : Inquiry → Resolver → String → Resolver → Prop where
  | self {key : String} {r : Resolver} : Visits store (.profile key) r key r
  | ancestor {key k : String} {r s : Resolver} {doc : Document} : r.Unseen key →
    document store key = .ok doc → Visits store (.profiles doc.ancestors) (r.opened key) k s →
    Visits store (.profile key) r k s
  | first {key k : String} {keys : List String} {r s : Resolver} :
    Visits store (.profile key) r k s → Visits store (.profiles (key :: keys)) r k s
  | later {key k : String} {keys : List String} {r r' s : Resolver} {done : Resolution} :
    Resolver.visit store key r = some (.ok done, r') → Visits store (.profiles keys) r' k s →
    Visits store (.profiles (key :: keys)) r k s

namespace Visits

variable {store : σ} {call : Inquiry} {key : String} {r s : Resolver}

/-- Only what a call leads to is visited. -/
theorem reaches (h : Visits store call r key s) : ∃ k ∈ call.keys, Reaches store k key := by
  induction h with
  | @self key _ => exact ⟨key, List.mem_singleton_self key, .refl⟩
  | @ancestor key _ _ _ doc _ hd _ ih =>
      obtain ⟨a, ha, hreach⟩ := ih
      exact ⟨key, List.mem_singleton_self key, .head ⟨doc, hd, ha⟩ hreach⟩
  | first _ ih =>
      obtain ⟨k, hk, hreach⟩ := ih
      exact ⟨k, List.mem_singleton.mp hk ▸ List.mem_cons_self, hreach⟩
  | later _ _ ih =>
      obtain ⟨k, hk, hreach⟩ := ih
      exact ⟨k, List.mem_cons_of_mem _ hk, hreach⟩

/-- A profile that is visited is at the end of a trail, if those that are asked for are. -/
theorem exists_trail (h : Visits store call r key s)
    (ht : ∀ k ∈ call.keys, ∃ start, Trail store start r.path k) :
    ∃ start, Trail store start s.path key := by
  induction h with
  | @self key _ => exact ht key (List.mem_singleton_self key)
  | @ancestor key _ _ _ doc hu hd _ ih =>
      obtain ⟨start, htrail⟩ := ht key (List.mem_singleton_self key)
      exact ih fun a ha => ⟨start, htrail.enter hu.path ⟨doc, hd, ha⟩⟩
  | first _ ih => exact ih fun k hk => ht k (List.mem_singleton.mp hk ▸ List.mem_cons_self)
  | later hv _ ih =>
      -- The profiles before it have left the path as they found it.
      rw [Resolver.visit_path hv] at ih
      exact ih fun k hk => ht k (List.mem_cons_of_mem _ hk)

end Visits

/-- No text is asked for but that of a visited profile. -/
theorem visits_of_asked (store : σ) :
    (∀ key r out, Resolver.visit store key r = some out → ∀ k ∈ out.2.asked,
      k ∈ r.asked ∨ ∃ s, Visits store (.profile key) r k s) ∧
      ∀ take keys taken r out, Resolver.visitEach store take keys taken r = some out →
        ∀ k ∈ out.2.asked, k ∈ r.asked ∨ ∃ s, Visits store (.profiles keys) r k s := by
  -- An expanded profile is asked for first, and then whatever its ancestors come to.
  have hopened : ∀ (key : String) (r r' : Resolver) (doc : Document), r.Unseen key →
      document store key = .ok doc →
      (∀ k ∈ r'.asked, k ∈ (r.opened key).asked ∨
        ∃ s, Visits store (.profiles doc.ancestors) (r.opened key) k s) →
      ∀ k ∈ r'.asked, k ∈ r.asked ∨ ∃ s, Visits store (.profile key) r k s := by
    intro key r r' doc hu hd h k hk
    rcases h k hk with hk | ⟨s, hs⟩
    · rcases List.mem_cons.mp hk with rfl | hk
      · exact .inr ⟨r, .self⟩
      · exact .inl hk
    · exact .inr ⟨s, .ancestor hu hd hs⟩
  refine Resolver.visit_induction store
    (fun key r out => ∀ k ∈ out.2.asked, k ∈ r.asked ∨ ∃ s, Visits store (.profile key) r k s)
    (fun _ keys _ r out => ∀ k ∈ out.2.asked,
      k ∈ r.asked ∨ ∃ s, Visits store (.profiles keys) r k s)
    ?known ?closing ?unread ?failed ?resolved ?nil ?stop ?next
  case known => intro key r done _ k hk; exact .inl hk
  case closing => intro key r _ _ k hk; exact .inl hk
  case unread =>
    intro key r fault _ _ k hk
    rcases List.mem_cons.mp hk with rfl | hk
    · exact .inr ⟨r, .self⟩
    · exact .inl hk
  case failed => intro key r doc fault r' hu hd _ h; exact hopened key r r' doc hu hd h
  case resolved => intro key r doc inherited r' hu hd _ h; exact hopened key r r' doc hu hd h
  case nil => intro take taken r k hk; exact .inl hk
  case stop =>
    intro take key keys taken r fault r' _ h k hk
    exact (h k hk).imp_right fun ⟨s, hs⟩ => ⟨s, .first hs⟩
  case next =>
    intro take key keys taken r done r' out hv h _ hrest k hk
    rcases hrest k hk with hk | ⟨s, hs⟩
    · exact (h k hk).imp_right fun ⟨s, hs⟩ => ⟨s, .first hs⟩
    · exact .inr ⟨s, .later hv hs⟩

/-- In the course of a call on one resolver, there is another: at the start or the end of a visit,
or when the visited profile has been put on the path, before its text is asked for or after. -/
inductive Moment (store : σ) (call : Inquiry) (r : Resolver) : Resolver → Prop where
  | entry {key : String} {s : Resolver} : Visits store call r key s → Moment store call r s
  | entered {key : String} {s : Resolver} : Visits store call r key s → s.Unseen key →
    Moment store call r (s.enter key)
  | opened {key : String} {s : Resolver} : Visits store call r key s → s.Unseen key →
    Moment store call r (s.opened key)
  | exit {key : String} {s : Resolver} {out : Resolver.Outcome Resolution} :
    Visits store call r key s → Resolver.visit store key s = some out → Moment store call r out.2

/-- No profile is ever on the path twice, and the path is at most one longer than the store is
large. -/
theorem Moment.path_bounded {store : σ} {call : Inquiry} {r s : Resolver}
    (h : Moment store call r s) (ht : ∀ key ∈ call.keys, ∃ start, Trail store start r.path key) :
    s.path.Nodup ∧ s.path.length ≤ (stored store).card + 1 := by
  have hbefore : ∀ {key : String} {s : Resolver}, Visits store call r key s →
      s.path.Nodup ∧ s.path.length ≤ (stored store).card + 1 := by
    intro key s hv
    obtain ⟨start, htrail⟩ := hv.exists_trail ht
    exact ⟨htrail.nodup, htrail.length_le.trans (Nat.le_succ _)⟩
  -- The profile that is put on the path need not have a text itself.
  have hafter : ∀ {key : String} {s : Resolver}, Visits store call r key s → s.Unseen key →
      (s.path ++ [key]).Nodup ∧ (s.path ++ [key]).length ≤ (stored store).card + 1 := by
    intro key s hv hu
    obtain ⟨start, htrail⟩ := hv.exists_trail ht
    refine ⟨htrail.nodup.append (List.nodup_singleton _) (List.disjoint_singleton.mpr hu.path), ?_⟩
    rw [List.length_append, List.length_singleton]
    exact Nat.succ_le_succ htrail.length_le
  cases h with
  | entry hv => exact hbefore hv
  | entered hv hu => exact hafter hv hu
  | opened hv hu => exact hafter hv hu
  | exit hv hout => exact Resolver.visit_path hout ▸ hbefore hv

end EnvProfiles
