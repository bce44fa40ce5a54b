import EnvProfiles.Profile.Visit

/-!
# Resolving Profiles

A visit to a profile is defined as a call that may not end, and here it is shown
to end. Every profile on the path but the last has a text, no profile is on the
path twice, and only finitely many profiles have a text; so a call has, whatever
the texts say, fewer profiles left to go to than the call it is nested in.

To resolve is to visit, together with the fact that the visit ends.

## Main definitions

* `Resolver.resolve`, `Resolver.resolveMany`: Resolve one profile or several.
* `resolveProfile`, `resolveProfiles`: The same with nothing remembered yet.
* `Resolver.remaining`: How many profiles there are left to go to.

## Theorems

* `exists_visit`, `exists_visitEach`: Every call ends.
* `visit_eq_resolve`, `visitEach_eq_resolveMany`: What a visit comes to.
-/

namespace EnvProfiles

namespace Resolver

variable {σ : Type} [KeyStore σ]

/-! ### Calls end -/

/-- How many of some keys are not on a path. -/
def remaining (known path : List String) : Nat :=
  (known.filter fun key => !path.contains key).length

/-- A known key that is put on the path is one less to go. -/
theorem remaining_concat_lt {known path : List String} {key : String} (hk : key ∈ known)
    (hp : key ∉ path) : remaining known (path ++ [key]) < remaining known path := by
  have hsplit : (known.filter fun k => !(path ++ [key]).contains k)
      = (known.filter fun k => !path.contains k).filter fun k => k != key := by
    rw [List.filter_filter]
    refine List.filter_congr fun k _ => ?_
    simp only [List.contains_eq_mem, List.mem_append, List.mem_singleton, bne]
    by_cases hk : k = key <;> by_cases hm : k ∈ path <;> simp [hk, hm]
  unfold remaining
  rw [hsplit, List.length_filter_lt_length_iff_exists]
  refine ⟨key, List.mem_filter.mpr ⟨hk, ?_⟩, ?_⟩
  · simp only [List.contains_eq_mem, hp, decide_false, Bool.not_false]
  · simp only [bne_self_eq_false, Bool.false_eq_true, not_false_eq_true]

/-- If every call from a path ends, then so does a row of calls, since each leaves the path as it
is. -/
theorem exists_visitEach_of {store : σ} {path : List String}
    (hv : ∀ key r, r.path = path → ∃ out, visit store key r = some out)
    (take : Dict → Resolution → Dict) (keys : List String) (taken : Dict) (r : Resolver)
    (hr : r.path = path) : ∃ out, visitEach store take keys taken r = some out := by
  induction keys generalizing taken r with
  | nil => exact ⟨_, visitEach_nil store take taken r⟩
  | cons key keys ih =>
      obtain ⟨⟨result, r'⟩, h⟩ := hv key r hr
      have hr' : r'.path = path := (visit_path h).trans hr
      cases result with
      | ok done =>
          obtain ⟨out, hout⟩ := ih (take taken done) r' hr'
          exact ⟨out, (visitEach_next h).trans hout⟩
      | error fault => exact ⟨_, visitEach_stop h⟩

/-- Every call ends: a nested call has one profile less to go to that has a text and is not on the
path. -/
theorem exists_visit (store : σ) (key : String) (r : Resolver) :
    ∃ out, visit store key r = some out := by
  obtain ⟨known, hknown⟩ := KeyStore.finite store
  induction hn : remaining known r.path using Nat.strongRecOn generalizing key r with
  | ind n ih =>
      cases hm : r.memo.lookup key with
      | some done => exact ⟨_, visit_known hm⟩
      | none =>
          by_cases hp : key ∈ r.path
          · exact ⟨_, visit_closing hm hp⟩
          · cases hd : document store key with
            | error fault => exact ⟨_, visit_unread ⟨hm, hp⟩ hd⟩
            | ok doc =>
                obtain ⟨text, htext, _⟩ := document_eq_ok.mp hd
                have hless := remaining_concat_lt (hknown key text htext) hp
                obtain ⟨out, h⟩ := exists_visitEach_of
                  (fun k s hs => ih _ (by rw [← hn, hs]; exact hless) k s rfl)
                  Dict.inherit doc.ancestors .empty (r.opened key) rfl
                exact ⟨_, (visit_read ⟨hm, hp⟩ hd).trans (congrArg (Option.map _) h)⟩

theorem exists_visitEach (store : σ) (take : Dict → Resolution → Dict) (keys : List String)
    (taken : Dict) (r : Resolver) : ∃ out, visitEach store take keys taken r = some out :=
  exists_visitEach_of (fun key r _ => exists_visit store key r) take keys taken r rfl

/-! ### Calls as functions -/

/-- Resolves one profile of a store. -/
def resolve (store : σ) (key : String) (r : Resolver) : Outcome Resolution :=
  (visit store key r).get (Option.isSome_iff_exists.mpr (exists_visit store key r))

/-- Resolves profiles and collects the variables that they export, those of later profiles over
those of earlier ones. -/
def resolveMany (store : σ) (keys : List String) (r : Resolver) : Outcome Dict :=
  (visitEach store Dict.collect keys .empty r).get
    (Option.isSome_iff_exists.mpr (exists_visitEach store Dict.collect keys .empty r))

theorem visit_eq_resolve (store : σ) (key : String) (r : Resolver) :
    visit store key r = some (resolve store key r) :=
  (Option.some_get _).symm

theorem visitEach_eq_resolveMany (store : σ) (keys : List String) (r : Resolver) :
    visitEach store Dict.collect keys .empty r = some (resolveMany store keys r) :=
  (Option.some_get _).symm

end Resolver

/-- Resolves one profile of a store, with nothing remembered yet. -/
def resolveProfile {σ : Type} [KeyStore σ] (store : σ) (key : String) : Except Fault Resolution :=
  (Resolver.resolve store key .fresh).1

/-- Resolves profiles of a store and collects the variables that they export. -/
def resolveProfiles {σ : Type} [KeyStore σ] (store : σ) (keys : List String) : Except Fault Dict :=
  (Resolver.resolveMany store keys .fresh).1

end EnvProfiles
