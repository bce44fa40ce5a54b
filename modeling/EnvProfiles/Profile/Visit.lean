import EnvProfiles.Profile.Document
import EnvProfiles.Store.Basic
import EnvProfiles.Template

/-!
# Visiting Profiles

A profile is resolved against the profiles it extends. Its scope starts empty;
every ancestor, in the order in which they are named, overlays it with the
variables that ancestor exports and then with the scope of that ancestor; the
profile's own local variables come last. The templates of the exported variables
are filled in from that scope.

A resolver keeps what it has resolved, so that a profile which is reached more
than once is read once, and it keeps the path of profiles that are being
resolved, so that a profile which is its own ancestor is noticed. What it
remembers is never taken back, not even when the call that led to it fails; the
path is always left as it was found.

The recursion goes wherever the texts of the store lead, so it is defined without
a bound, as a call that may not end. Whatever is true of all calls that end is
proved by `visit_induction`, which has one case for each way in which a call can
end.

## Main definitions

* `Resolution`: A profile's scope and the variables it exports.
* `document`: What the text stored under a key says.
* `Resolver`: What is remembered and what is in progress.
* `Resolver.visit`: Resolves one profile.
* `Resolver.visitEach`: Resolves profiles one after the other.
* `Resolver.Unseen`: A profile that has to be expanded.

## Theorems

* `document_eq_ok`: A document is read from a text.
* `visit_induction`: What holds of a call if the calls nested in it have it.
* `visit_path`, `visitEach_path`: A call leaves the path as it found it.
-/

namespace EnvProfiles

/-- What a profile comes to once its ancestors have been taken in. -/
structure Resolution where
  /-- The variables that its templates are filled in from. -/
  scope : Dict
  /-- The variables that it exports, with their values. -/
  exports : Dict
deriving DecidableEq, Repr, Inhabited

/-- What has been resolved and what is being resolved. -/
structure Resolver where
  /-- The profiles that are being resolved, the one that was asked for first. -/
  path : List String
  /-- The profiles that have been resolved. -/
  memo : List (String × Resolution)
  /-- The keys whose text has been asked for, the last one first. -/
  asked : List String
deriving DecidableEq, Repr

/-- Takes in one ancestor: first the variables that it exports, then its scope. -/
def Dict.inherit (scope : Dict) (ancestor : Resolution) : Dict :=
  (scope.merge ancestor.exports).merge ancestor.scope

/-- Takes in the variables that a profile exports, and nothing of its scope. -/
def Dict.collect (exports : Dict) (done : Resolution) : Dict := exports.merge done.exports

/-- The exported variables with the placeholders in their templates filled in. -/
def Dict.fillFrom (templates scope : Dict) : Dict :=
  .ofList (templates.toList.map fun (name, template) => (name, Template.fill template scope))

/-- What a profile comes to, given what it inherits: its own local variables come last. -/
def Document.complete (document : Document) (inherited : Dict) : Resolution :=
  let scope := inherited.merge document.locals
  ⟨scope, document.exports.fillFrom scope⟩

/-- What the text stored under a key says. -/
def document {σ : Type} [KeyStore σ] (store : σ) (key : String) : Except Fault Document :=
  match KeyStore.get? store key with
  | .error fault => .error (.store fault)
  | .ok none => .error (.profile (.notFound key))
  | .ok (some text) => (Document.parse key text).mapError .profile

/-- A document is read from a text. -/
theorem document_eq_ok {σ : Type} [KeyStore σ] {store : σ} {key : String} {doc : Document} :
    document store key = .ok doc ↔
      ∃ text, KeyStore.get? store key = .ok (some text) ∧ Document.parse key text = .ok doc := by
  unfold document
  split
  next h => simp only [h, reduceCtorEq, false_and, exists_false]
  next h => simp only [h, Except.ok.injEq, reduceCtorEq, false_and, exists_false]
  next text h =>
    simp only [h, Except.ok.injEq, Option.some.injEq, exists_eq_left']
    cases Document.parse key text with
    | error fault => exact ⟨fun h => (nomatch h), fun h => (nomatch h)⟩
    | ok found => exact ⟨fun h => congrArg _ (Except.ok.inj h), fun h => congrArg _ (Except.ok.inj h)⟩

namespace Resolver

variable {σ : Type} [KeyStore σ]

/-- Nothing is resolved yet. -/
def fresh : Resolver := ⟨[], [], []⟩

/-- The outcome of a call, which is a fault or a result, and the resolver after it. -/
abbrev Outcome (α : Type) := Except Fault α × Resolver

/-- Puts a profile at the end of the path. -/
def enter (r : Resolver) (key : String) : Resolver := { r with path := r.path ++ [key] }

/-- Takes the last profile off the path. -/
def leave (r : Resolver) : Resolver := { r with path := r.path.dropLast }

/-- Remembers a resolution. -/
def remember (r : Resolver) (key : String) (done : Resolution) : Resolver :=
  { r with memo := (key, done) :: r.memo }

/-- Notes that the text of a key has been asked for. -/
def ask (r : Resolver) (key : String) : Resolver := { r with asked := key :: r.asked }

/-- The circle that a key on the path closes. -/
def cycle (path : List String) (key : String) : List String :=
  path.dropWhile (· != key) ++ [key]

mutual

/-- Resolves one profile: a remembered one is returned, one on the path is at fault, and any other
is put on the path while it is expanded, and is remembered if that succeeds. -/
def visit (store : σ) (key : String) (r : Resolver) : Option (Outcome Resolution) :=
  match r.memo.lookup key with
  | some done => some (.ok done, r)
  | none =>
    -- A profile on the path is not remembered yet, so the order of these tests is free.
    if r.path.contains key then some (.error (.profile (.cyclic (cycle r.path key))), r)
    else do
      match ← r.enter key |>.expand store key with
      | (.ok done, r) => return (.ok done, r.leave.remember key done)
      | (.error fault, r) => return (.error fault, r.leave)
partial_fixpoint

/-- Resolves the profile at the end of the path. -/
def expand (store : σ) (key : String) (r : Resolver) : Option (Outcome Resolution) :=
  match document store key with
  | .error fault => some (.error fault, r.ask key)
  | .ok document => do
    match ← r.ask key |>.visitEach store Dict.inherit document.ancestors .empty with
    | (.ok inherited, r) => return (.ok (document.complete inherited), r)
    | (.error fault, r) => return (.error fault, r)
partial_fixpoint

/-- Resolves profiles one after the other, up to the first that cannot be resolved, and takes in
what each of them comes to. -/
def visitEach (store : σ) (take : Dict → Resolution → Dict) (keys : List String) (taken : Dict)
    (r : Resolver) : Option (Outcome Dict) :=
  match keys with
  | [] => some (.ok taken, r)
  | key :: keys => do
    match ← r |>.visit store key with
    | (.ok done, r) => r |>.visitEach store take keys (take taken done)
    | (.error fault, r) => return (.error fault, r)
partial_fixpoint

end

/-- A profile that is neither remembered nor being resolved, so that it has to be expanded. -/
structure Unseen (r : Resolver) (key : String) : Prop where
  memo : r.memo.lookup key = none
  path : key ∉ r.path

/-- The resolver with which a profile is expanded: it is on the path, and its text is asked for. -/
def opened (r : Resolver) (key : String) : Resolver := (r.enter key).ask key

@[simp] theorem opened_path (r : Resolver) (key : String) : (r.opened key).path = r.path ++ [key] := rfl

/-- Once it has nothing left to resolve, a profile comes off the path. -/
@[simp] theorem opened_leave (r : Resolver) (key : String) : (r.opened key).leave = r.ask key := by
  simp only [opened, enter, ask, leave, List.dropLast_concat]

/-! ### What a call does -/

theorem visit_known {store : σ} {key : String} {r : Resolver} {done : Resolution}
    (h : r.memo.lookup key = some done) : visit store key r = some (.ok done, r) := by
  rw [visit, h]

theorem visit_closing {store : σ} {key : String} {r : Resolver} (hm : r.memo.lookup key = none)
    (hp : key ∈ r.path) :
    visit store key r = some (.error (.profile (.cyclic (cycle r.path key))), r) := by
  rw [visit, hm]
  exact if_pos (List.contains_iff_mem.mpr hp)

/-- A profile that has to be expanded comes off the path when that is done, and is remembered if it
was resolved. -/
theorem visit_unseen {store : σ} {key : String} {r : Resolver} (h : r.Unseen key) :
    visit store key r = (expand store key (r.enter key)).map fun
      | (.ok done, r) => (.ok done, r.leave.remember key done)
      | (.error fault, r) => (.error fault, r.leave) := by
  rw [visit, h.memo]
  simp only [List.contains_eq_mem, h.path, decide_false, Bool.false_eq_true, if_false]
  cases expand store key (r.enter key) with
  | none => rfl
  | some out => obtain ⟨_ | _, _⟩ := out <;> rfl

theorem visit_unread {store : σ} {key : String} {r : Resolver} {fault : Fault} (h : r.Unseen key)
    (hd : document store key = .error fault) :
    visit store key r = some (.error fault, r.ask key) := by
  rw [visit_unseen h, expand, hd]
  exact congrArg (fun s => some (Except.error fault, s)) (opened_leave r key)

/-- What becomes of a profile whose text can be read is decided by its ancestors. -/
theorem visit_read {store : σ} {key : String} {r : Resolver} {doc : Document} (h : r.Unseen key)
    (hd : document store key = .ok doc) :
    visit store key r
      = (visitEach store Dict.inherit doc.ancestors .empty (r.opened key)).map fun
        | (.ok inherited, r) =>
          (.ok (doc.complete inherited), r.leave.remember key (doc.complete inherited))
        | (.error fault, r) => (.error fault, r.leave) := by
  rw [visit_unseen h, expand, hd]
  change Option.map _ (Option.bind (visitEach store Dict.inherit doc.ancestors .empty
    (r.opened key)) _) = _
  cases visitEach store Dict.inherit doc.ancestors .empty (r.opened key) with
  | none => rfl
  | some out => obtain ⟨_ | _, _⟩ := out <;> rfl

theorem visitEach_nil (store : σ) (take : Dict → Resolution → Dict) (taken : Dict)
    (r : Resolver) : visitEach store take [] taken r = some (.ok taken, r) := by
  rw [visitEach]

theorem visitEach_stop {store : σ} {take : Dict → Resolution → Dict} {key : String}
    {keys : List String} {taken : Dict} {r r' : Resolver} {fault : Fault}
    (h : visit store key r = some (.error fault, r')) :
    visitEach store take (key :: keys) taken r = some (.error fault, r') := by
  rw [visitEach, h]
  rfl

theorem visitEach_next {store : σ} {take : Dict → Resolution → Dict} {key : String}
    {keys : List String} {taken : Dict} {r r' : Resolver} {done : Resolution}
    (h : visit store key r = some (.ok done, r')) :
    visitEach store take (key :: keys) taken r = visitEach store take keys (take taken done) r' := by
  rw [visitEach, h]
  rfl

/-- To prove something of every call that ends, prove it of each way in which a call can end, given
the calls nested in it and that these have it. -/
theorem visit_induction (store : σ) (onVisit : String → Resolver → Outcome Resolution → Prop)
    (onEach : (Dict → Resolution → Dict) → List String → Dict → Resolver → Outcome Dict → Prop)
    (known : ∀ key r done, r.memo.lookup key = some done → onVisit key r (.ok done, r))
    (closing : ∀ key r, r.memo.lookup key = none → key ∈ r.path →
      onVisit key r (.error (.profile (.cyclic (cycle r.path key))), r))
    (unread : ∀ key r fault, r.Unseen key → document store key = .error fault →
      onVisit key r (.error fault, r.ask key))
    (failed : ∀ key r doc fault r', r.Unseen key → document store key = .ok doc →
      visitEach store Dict.inherit doc.ancestors .empty (r.opened key) = some (.error fault, r') →
      onEach Dict.inherit doc.ancestors .empty (r.opened key) (.error fault, r') →
      onVisit key r (.error fault, r'.leave))
    (resolved : ∀ key r doc inherited r', r.Unseen key → document store key = .ok doc →
      visitEach store Dict.inherit doc.ancestors .empty (r.opened key) = some (.ok inherited, r') →
      onEach Dict.inherit doc.ancestors .empty (r.opened key) (.ok inherited, r') →
      onVisit key r (.ok (doc.complete inherited),
        r'.leave.remember key (doc.complete inherited)))
    (nil : ∀ take taken r, onEach take [] taken r (.ok taken, r))
    (stop : ∀ take key keys taken r fault r', visit store key r = some (.error fault, r') →
      onVisit key r (.error fault, r') → onEach take (key :: keys) taken r (.error fault, r'))
    (next : ∀ take key keys taken r done r' out, visit store key r = some (.ok done, r') →
      onVisit key r (.ok done, r') → visitEach store take keys (take taken done) r' = some out →
      onEach take keys (take taken done) r' out → onEach take (key :: keys) taken r out) :
    (∀ key r out, visit store key r = some out → onVisit key r out) ∧
      ∀ take keys taken r out, visitEach store take keys taken r = some out →
        onEach take keys taken r out := by
  -- A call also knows that it is one, which its callers are told.
  have all := visit.mutual_partial_correctness store
    (fun key r out => visit store key r = some out ∧ onVisit key r out)
    (fun key r out =>
      (∃ fault, document store key = .error fault ∧ out = (.error fault, r.ask key)) ∨
      ∃ doc result r', document store key = .ok doc ∧
        (visitEach store Dict.inherit doc.ancestors .empty (r.ask key) = some (result, r') ∧
          onEach Dict.inherit doc.ancestors .empty (r.ask key) (result, r')) ∧
        out = (result.map doc.complete, r'))
    (fun take keys taken r out =>
      visitEach store take keys taken r = some out ∧ onEach take keys taken r out)
    ?visit ?expand ?each
  case visit =>
    intro expand ih key r out h
    cases hm : r.memo.lookup key with
    | some done =>
        simp only [hm, Option.some.injEq] at h
        exact h ▸ ⟨visit_known hm, known key r done hm⟩
    | none =>
        by_cases hp : key ∈ r.path
        · simp only [hm, List.contains_eq_mem, hp, decide_true, if_true, Option.some.injEq] at h
          exact h ▸ ⟨visit_closing hm hp, closing key r hm hp⟩
        · simp only [hm, List.contains_eq_mem, hp, decide_false, Bool.false_eq_true, if_false,
            Option.bind_eq_bind, Option.bind_eq_some_iff] at h
          obtain ⟨result, he, h⟩ := h
          have hu : r.Unseen key := ⟨hm, hp⟩
          rcases ih key (r.enter key) result he with
            ⟨fault, hd, rfl⟩ | ⟨doc, result, r', hd, ⟨hr, hon⟩, rfl⟩
          · simp only [Option.pure_def, Option.some.injEq] at h
            rw [← h]
            exact opened_leave r key ▸ ⟨visit_unread hu hd, unread key r fault hu hd⟩
          · have hv := visit_read hu hd
            cases result with
            | ok inherited =>
                simp only [Except.map, Option.pure_def, Option.some.injEq] at h
                exact h ▸ ⟨hv.trans (congrArg (Option.map _) hr),
                  resolved key r doc inherited r' hu hd hr hon⟩
            | error fault =>
                simp only [Except.map, Option.pure_def, Option.some.injEq] at h
                exact h ▸ ⟨hv.trans (congrArg (Option.map _) hr),
                  failed key r doc fault r' hu hd hr hon⟩
  case expand =>
    intro visitEach ih key r out h
    cases hd : document store key with
    | error fault =>
        simp only [hd, Option.some.injEq] at h
        exact .inl ⟨fault, rfl, h.symm⟩
    | ok doc =>
        simp only [hd, Option.bind_eq_bind, Option.bind_eq_some_iff] at h
        obtain ⟨⟨result, r'⟩, he, h⟩ := h
        refine .inr ⟨doc, result, r', rfl, ih _ _ _ _ _ he, ?_⟩
        cases result <;> exact (Option.some.inj h).symm
  case each =>
    intro visit visitEach ihVisit ihEach take keys taken r out h
    cases keys with
    | nil =>
        simp only [Option.some.injEq] at h
        exact h ▸ ⟨visitEach_nil store take taken r, nil take taken r⟩
    | cons key keys =>
        simp only [Option.bind_eq_bind, Option.bind_eq_some_iff] at h
        obtain ⟨⟨result, r'⟩, he, h⟩ := h
        obtain ⟨hv, hon⟩ := ihVisit _ _ _ he
        cases result with
        | ok done =>
            obtain ⟨hr, hrest⟩ := ihEach _ _ _ _ _ h
            exact ⟨(visitEach_next hv).trans hr, next take key keys taken r done r' out hv hon hr hrest⟩
        | error fault =>
            rw [← Option.some.inj h]
            exact ⟨visitEach_stop hv, stop take key keys taken r fault r' hv hon⟩
  exact ⟨fun key r out h => (all.1 key r out h).2,
    fun take keys taken r out h => (all.2.2 take keys taken r out h).2⟩

/-- Calls leave the path as they found it. -/
theorem path_kept (store : σ) :
    (∀ key r out, visit store key r = some out → out.2.path = r.path) ∧
      ∀ take keys taken r out, visitEach store take keys taken r = some out →
        out.2.path = r.path := by
  -- What was put at the end of the path is what comes off it again.
  have hleave : ∀ (r r' : Resolver) (key : String), r'.path = (r.opened key).path →
      r'.leave.path = r.path := by
    intro r r' key h
    rw [leave, h, opened_path, List.dropLast_concat]
  refine visit_induction store (fun _ r out => out.2.path = r.path)
    (fun _ _ _ r out => out.2.path = r.path)
    ?known ?closing ?unread ?failed ?resolved ?nil ?stop ?next
  case known => intro key r done _; rfl
  case closing => intro key r _ _; rfl
  case unread => intro key r fault _ _; rfl
  case failed => intro key r doc fault r' _ _ _ h; exact hleave r r' key h
  case resolved => intro key r doc inherited r' _ _ _ h; exact hleave r r' key h
  case nil => intro take taken r; rfl
  case stop => intro take key keys taken r fault r' _ h; exact h
  case next => intro take key keys taken r done r' out _ hv _ he; exact he.trans hv

theorem visit_path {store : σ} {key : String} {r : Resolver} {out : Outcome Resolution}
    (h : visit store key r = some out) : out.2.path = r.path :=
  (path_kept store).1 key r out h

theorem visitEach_path {store : σ} {take : Dict → Resolution → Dict} {keys : List String}
    {taken : Dict} {r : Resolver} {out : Outcome Dict}
    (h : visitEach store take keys taken r = some out) : out.2.path = r.path :=
  (path_kept store).2 take keys taken r out h

end Resolver

end EnvProfiles
