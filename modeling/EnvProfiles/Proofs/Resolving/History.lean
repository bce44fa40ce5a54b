import EnvProfiles.Proofs.Resolving.Memory

/-!
# Histories of a Resolver

One resolver may be asked many things, and some of them fail. Between two calls
its path is empty and what it remembers is right, which is all that a later call
depends on, so a resolver answers every call as if it were the first. The answer
is that of plain resolution, which has no history.

## Main definitions

* `Inquiry`, `Reply`: What a call asks of a resolver, and what is answered.
* `Inquiry.answer`, `Inquiry.plainAnswer`: The answer of a resolver and of plain
  resolution.
* `Inquiry.answers`, `Inquiry.after`: A history of calls on one resolver.
* `Resolver.Ready`: A resolver between two calls.

## Theorems

* `Resolver.Ready.resolve_eq`, `Resolver.Ready.resolveMany_eq`: A ready resolver
  answers as plain resolution does.
* `Inquiry.ready_after`: Every history leaves a resolver ready.
* `Inquiry.answers_eq_plainAnswers`: No call changes the answer of another.
-/

namespace EnvProfiles

/-- What a call asks of a resolver. -/
inductive Inquiry where
  /-- What one profile comes to. -/
  | profile (key : String)
  /-- What several profiles export together. -/
  | profiles (keys : List String)
deriving DecidableEq, Repr

/-- What a call comes to. -/
inductive Reply where
  | resolution (done : Resolution)
  | exports (exported : Dict)
deriving DecidableEq, Repr

variable {σ : Type} [KeyStore σ]

namespace Inquiry

/-- The answer of a resolver, and the resolver after it. -/
def answer (store : σ) (r : Resolver) : Inquiry → Except Fault Reply × Resolver
  | profile key =>
    ((Resolver.resolve store key r).1.map .resolution, (Resolver.resolve store key r).2)
  | profiles keys =>
    ((Resolver.resolveMany store keys r).1.map .exports, (Resolver.resolveMany store keys r).2)

/-- The answer of plain resolution, which starts every profile from an empty path. -/
def plainAnswer (store : σ) : Inquiry → Except Fault Reply
  | profile key => (resolveAlong store [] key).map .resolution
  | profiles keys => (gather (resolveAlong store []) Dict.collect keys .empty).map .exports

/-- The answers of one resolver that is asked one thing after the other. -/
def answers (store : σ) : List Inquiry → Resolver → List (Except Fault Reply)
  | [], _ => []
  | call :: calls, r => (call.answer store r).1 :: answers store calls (call.answer store r).2

/-- The resolver after all that. -/
def after (store : σ) (calls : List Inquiry) (r : Resolver) : Resolver :=
  calls.foldl (fun r call => (call.answer store r).2) r

end Inquiry

namespace Resolver

/-- A resolver between two calls. -/
structure Ready (store : σ) (r : Resolver) : Prop where
  path : r.path = []
  sound : r.Sound store

theorem ready_fresh (store : σ) : fresh.Ready store := ⟨rfl, sound_fresh store⟩

namespace Ready

variable {store : σ} {r : Resolver}

/-- Every call starts a trail of its own. -/
theorem exists_trail (h : r.Ready store) (key : String) : ∃ start, Trail store start r.path key :=
  ⟨key, h.path ▸ .start⟩

theorem visit_eq {key : String} {out : Outcome Resolution} (h : r.Ready store)
    (hv : visit store key r = some out) :
    out.1 = resolveAlong store [] key ∧ out.2.Ready store := by
  obtain ⟨hout, hsound⟩ := (refines store).1 key r out hv (h.exists_trail key) h.sound
  exact ⟨h.path ▸ hout, (visit_path hv).trans h.path, hsound⟩

theorem visitEach_eq {take : Dict → Resolution → Dict} {keys : List String} {taken : Dict}
    {out : Outcome Dict} (h : r.Ready store) (hv : visitEach store take keys taken r = some out) :
    out.1 = gather (resolveAlong store []) take keys taken ∧ out.2.Ready store := by
  obtain ⟨hout, hsound⟩ := (refines store).2 take keys taken r out hv
    (fun key _ => h.exists_trail key) h.sound
  exact ⟨h.path ▸ hout, (visitEach_path hv).trans h.path, hsound⟩

theorem resolve_eq (h : r.Ready store) (key : String) :
    (resolve store key r).1 = resolveAlong store [] key :=
  (h.visit_eq (visit_eq_resolve store key r)).1

theorem resolveMany_eq (h : r.Ready store) (keys : List String) :
    (resolveMany store keys r).1 = gather (resolveAlong store []) Dict.collect keys .empty :=
  (h.visitEach_eq (visitEach_eq_resolveMany store keys r)).1

end Ready

end Resolver

namespace Inquiry

variable {store : σ} {r : Resolver}

/-- Every call leaves a resolver ready, whether it succeeds or fails. -/
theorem ready_answer (call : Inquiry) (h : r.Ready store) :
    (call.answer store r).2.Ready store := by
  cases call with
  | profile key => exact (h.visit_eq (Resolver.visit_eq_resolve store key r)).2
  | profiles keys => exact (h.visitEach_eq (Resolver.visitEach_eq_resolveMany store keys r)).2

/-- A ready resolver answers as plain resolution does. -/
theorem answer_eq_plainAnswer (call : Inquiry) (h : r.Ready store) :
    (call.answer store r).1 = call.plainAnswer store := by
  cases call with
  | profile key => exact congrArg (Except.map Reply.resolution) (h.resolve_eq key)
  | profiles keys => exact congrArg (Except.map Reply.exports) (h.resolveMany_eq keys)

/-- Every history leaves a resolver ready. -/
theorem ready_after (calls : List Inquiry) (h : r.Ready store) :
    (after store calls r).Ready store := by
  induction calls generalizing r with
  | nil => exact h
  -- A call that fails leaves the resolver as ready as one that succeeds.
  | cons call calls ih => exact ih (call.ready_answer h)

theorem answers_of_ready (calls : List Inquiry) (h : r.Ready store) :
    answers store calls r = calls.map (plainAnswer store) := by
  induction calls generalizing r with
  | nil => rfl
  | cons call calls ih =>
      rw [answers, List.map_cons, call.answer_eq_plainAnswer h, ih (call.ready_answer h)]

/-- No call changes the answer of another: a resolver that is asked one thing after the other, some
of which may fail, answers each as plain resolution does, which remembers nothing. -/
theorem answers_eq_plainAnswers (store : σ) (calls : List Inquiry) :
    answers store calls .fresh = calls.map (plainAnswer store) :=
  answers_of_ready calls (Resolver.ready_fresh store)

end Inquiry

end EnvProfiles
