import EnvProfiles.Proofs.Resolving.Depth
import EnvProfiles.Proofs.Resolving.Scopes
import EnvProfiles.Store.Memory

/-!
# Searching a Scope

The value of a name in the scope of a profile, found without building a scope.
A resolver goes through the ancestors from the first to the last, puts whole
dictionaries together and lets later ones win. The search goes the other way: it
looks for a single name, starts at the top and stops at the first hit, and it
asks an ancestor only when everything above that ancestor does not have the
name. An exported value is found by filling in its template, for which the names
in the template are searched for in turn.

Nothing is remembered and no path is kept, so on some stores the search goes
round a circle for ever. It is defined as a search that may have no answer, and
it has one wherever the profile is resolved.

## Main definitions

* `Query`: A profile and a name to look for.
* `Query.scope`: Searches the scope of the profile.
* `Query.seen`: Searches what is seen of the profile, its scope before its exports.
* `Query.exports`, `Query.fill`: Search what the profile exports.
* `fork`: A store in which one name comes to a profile in several ways.

## Theorems

* `Resolves.search_eq`: Where a profile is resolved, the search finds what is in
  its scope and what it exports.
* `scope_names_and_search`: The names in a scope, and how their values are found.
* `scope_of_fork`: An ancestor's ancestor hides what another ancestor exports.
-/

namespace EnvProfiles

/-- A search each of whose steps has an answer has one itself. -/
theorem findSomeM?_eq_some {α β : Type} {f : α → Option (Option β)} {g : α → Option β} {l : List α}
    (h : ∀ a ∈ l, f a = some (g a)) : l.findSomeM? f = some (l.findSome? g) := by
  induction l with
  | nil => rfl
  | cons a l ih =>
      rw [List.findSomeM?_cons, h a List.mem_cons_self, List.findSome?_cons,
        ih fun b hb => h b (List.mem_cons_of_mem _ hb)]
      cases g a <;> rfl

variable {σ : Type} [KeyStore σ]

/-- A profile to start from, and a name to look for. -/
structure Query where
  key : String
  name : String

namespace Query

mutual

/-- Searches the scope of a profile for a name, from the top: its own local block, and then its
ancestors, the last one first. There is no answer if the search comes to a profile that cannot be
read or goes round a circle. -/
def scope (store : σ) (query : Query) : Option (Option String) :=
  match document store query.key with
  | .error _ => none
  | .ok doc =>
    match doc.locals.get? query.name with
    | some value => some (some value)
    | none => doc.ancestors.reverse.findSomeM? fun ancestor =>
      { query with key := ancestor } |>.seen store
partial_fixpoint

/-- Searches what is seen of an ancestor: its scope, by the same search, and then its exports. -/
def seen (store : σ) (query : Query) : Option (Option String) := do
  match ← query |>.scope store with
  | some value => return some value
  | none => query |>.exports store
partial_fixpoint

/-- Searches what a profile exports: the template of the name, with its pieces filled in. -/
def exports (store : σ) (query : Query) : Option (Option String) :=
  match document store query.key with
  | .error _ => none
  | .ok doc =>
    match doc.exports.get? query.name with
    | none => some none
    | some template => do
      let parts ← (Template.pieces template.toList).mapM fun piece => query |>.fill store piece
      return some (String.ofList parts.flatten)
partial_fixpoint

/-- A piece of a template, with what is found for a placeholder when its name is searched for in the
scope. -/
def fill (store : σ) (query : Query) (piece : Piece) : Option (List Char) :=
  match piece with
  | .literal c => some [c]
  | .placeholder p => do
    let value ← { query with name := String.ofList p.name } |>.scope store
    return (value.getD "").toList
partial_fixpoint

end

variable {store : σ} {query : Query} {doc : Document}

theorem scope_eq (hd : document store query.key = .ok doc) : query.scope store
    = match doc.locals.get? query.name with
      | some value => some (some value)
      | none => doc.ancestors.reverse.findSomeM? fun a => seen store ⟨a, query.name⟩ := by
  rw [scope, hd]

theorem exports_eq (hd : document store query.key = .ok doc) : query.exports store
    = match doc.exports.get? query.name with
      | none => some none
      | some template => do
        let parts ← (Template.pieces template.toList).mapM (query.fill store)
        return some (String.ofList parts.flatten) := by
  rw [exports, hd]

/-- When a search in the scope finds what is there, a template is filled in as from the scope. -/
theorem fill_eq_some {dict : Dict}
    (hscope : ∀ n, scope store ⟨query.key, n⟩ = some (dict.get? n)) (piece : Piece) :
    query.fill store piece = some (piece.fill dict) := by
  cases piece with
  | literal c => rw [fill]; rfl
  | placeholder p => rw [fill, hscope]; rfl

/-- What is found in a scope is what is there, if that is so for what is seen of the ancestors. -/
theorem scope_eq_some {found : String → Resolution} (hd : document store query.key = .ok doc)
    (hseen : ∀ a ∈ doc.ancestors,
      seen store ⟨a, query.name⟩ = some ((found a).seen query.name)) :
    query.scope store
      = some ((doc.complete (doc.inherited found)).scope.get? query.name) := by
  rw [scope_eq hd, Document.get?_scope]
  cases hlocal : doc.locals.get? query.name with
  | some value => rfl
  | none =>
      rw [Option.none_or]
      exact findSomeM?_eq_some fun a ha => hseen a (List.mem_reverse.mp ha)

/-- What is seen of a profile is found by two searches, one after the other. -/
theorem seen_eq_some {res : Resolution}
    (hscope : query.scope store = some (res.scope.get? query.name))
    (hexports : query.exports store = some (res.exports.get? query.name)) :
    query.seen store = some (res.seen query.name) := by
  rw [seen, hscope, Resolution.seen]
  cases res.scope.get? query.name with
  | some value => rfl
  | none => rw [Option.none_or]; exact hexports

/-- What is found among the exports is what is there, if that is so for the scope. -/
theorem exports_eq_some {inherited : Dict} (hd : document store query.key = .ok doc)
    (hscope : ∀ n, scope store ⟨query.key, n⟩ = some ((doc.complete inherited).scope.get? n)) :
    query.exports store = some ((doc.complete inherited).exports.get? query.name) := by
  rw [exports_eq hd, Document.get?_exports]
  cases doc.exports.get? query.name with
  | none => rfl
  | some template =>
      -- Every piece is filled in as from the scope, so the search cannot get stuck.
      have hpieces : query.fill store
          = fun piece => pure (piece.fill (doc.complete inherited).scope) :=
        funext (fill_eq_some hscope)
      simp only [hpieces, List.mapM_pure]
      rfl

end Query

/-- Where a profile is resolved, the search finds what is in its scope and what it exports. -/
theorem Resolves.search_eq {store : σ} {key : String} {res : Resolution}
    (h : Resolves store key res) (name : String) :
    Query.scope store ⟨key, name⟩ = some (res.scope.get? name) ∧
      Query.exports store ⟨key, name⟩ = some (res.exports.get? name) := by
  induction h generalizing name with
  | @intro key doc found hd _ ih =>
      -- A template may ask for any name, so the scope is searched for all names first.
      have hscope : ∀ n, Query.scope store ⟨key, n⟩
          = some ((doc.complete (doc.inherited found)).scope.get? n) := fun n =>
        Query.scope_eq_some hd fun a ha => Query.seen_eq_some (ih a ha n).1 (ih a ha n).2
      exact ⟨hscope name, Query.exports_eq_some hd hscope⟩

/-- The scope of a resolved profile has the names of its own local block and those that a proper
ancestor has in either block, and the value of each is what the search from the top finds. The same
search finds the scopes and the exports of all that the profile leads to. -/
theorem scope_names_and_search (store : σ) (key : String) (res : Resolution) (name : String)
    (h : resolveProfile store key = .ok res) :
    (name ∈ res.scope.names ↔ DeclaresLocal store key name ∨
      ∃ a, Relation.TransGen (Extends store) key a ∧
        (DeclaresLocal store a name ∨ DeclaresExport store a name)) ∧
    Query.scope store ⟨key, name⟩ = some (res.scope.get? name) ∧
    ∀ a, Reaches store key a → ∃ done, resolveProfile store a = .ok done ∧
      Query.scope store ⟨a, name⟩ = some (done.scope.get? name) ∧
      Query.exports store ⟨a, name⟩ = some (done.exports.get? name) := by
  have hres := resolveProfile_eq_ok.mp h
  refine ⟨hres.mem_names_scope, (hres.search_eq name).1, fun a ha => ?_⟩
  obtain ⟨done, hdone⟩ := hres.of_reaches ha
  exact ⟨done, resolveProfile_eq_ok.mpr hdone, hdone.search_eq name⟩

/-- A profile with two ancestors that share one. All three export `X` or inherit it. -/
def fork : MemoryStore :=
  ⟨.ofList [
    ("base", "local:\n  v: base\nenv:\n  X: x-$v\n"),
    ("left", "extends: [base]\nenv:\n  X: left\n"),
    ("right", "extends: [base]\nlocal:\n  v: right\n"),
    ("top", "extends: [left, right]\nenv:\n  OUT: $X/$v\n")]⟩

/-- The last ancestor of `top` is searched first, and it has inherited `X`, so what the first one
exports is not found. -/
theorem scope_of_fork :
    resolveProfile fork "top"
      = .ok ⟨.ofList [("X", "x-base"), ("v", "right")], .ofList [("OUT", "x-base/right")]⟩ ∧
    Query.scope fork ⟨"top", "X"⟩ = some (some "x-base") ∧
    ∃ a, Relation.TransGen (Extends fork) "top" a ∧
      (DeclaresLocal fork a "X" ∨ DeclaresExport fork a "X") := by
  have hres : resolveProfile fork "top"
      = .ok ⟨.ofList [("X", "x-base"), ("v", "right")], .ofList [("OUT", "x-base/right")]⟩ :=
    resolveProfile_eq_of_within 3 (by decide +kernel)
  obtain ⟨hnames, hsearch, _⟩ := scope_names_and_search fork "top" _ "X" hres
  refine ⟨hres, hsearch.trans (by decide +kernel), ?_⟩
  have hmem := hnames.mp (by decide +kernel)
  have hdoc : (document fork "top").toOption
      = some ⟨["left", "right"], .empty, .ofList [("OUT", "$X/$v")]⟩ := by decide +kernel
  rw [declaresLocal_iff (eq_ok_of_toOption hdoc)] at hmem
  exact hmem.resolve_left (by decide +kernel)

end EnvProfiles
