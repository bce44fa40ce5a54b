import EnvProfiles.Proofs.Overlay
import EnvProfiles.Proofs.Resolving.Ancestry
import Mathlib.Data.List.Basic

/-!
# Derivations

What a profile comes to, said without a resolver: no path, no memory and no
order in which anything is done. `Resolves` builds the resolution of a profile
from resolutions of its ancestors, so a derivation is a finite tree, and a
profile that leads back to itself has none.

A derivation is not needed to say what a resolution has to look like.
`FollowsRule` says of a single profile how its scope and its exports depend on
what its ancestors come to, and `IsSolution` asks for that at every profile that
can be reached. On a graph without circles the rule leaves no freedom, which is
what ties the two together.

## Main definitions

* `Resolution.seen`: What is seen of a resolved profile under a name.
* `Document.inherited`: What a profile inherits, given what its ancestors come to.
* `Resolves`: A profile comes to a resolution.
* `FollowsRule`: A resolution is what the profile's document says.
* `IsSolution`: The rule holds at every profile that can be reached.

## Theorems

* `get?_fillFrom`: An exported variable is its template, filled in.
* `Document.get?_inherited`: What is inherited is what is seen from the top.
* `followsRule_iff`: The rule has one resolution for given ancestors.
* `Resolves.unique`: A profile comes to one resolution at most.
* `Resolves.of_reaches`: If a profile comes to something, so do its ancestors.
* `Resolves.not_circular`: Such a profile does not lead back to itself.
* `IsSolution.eq_of_resolves`: A solution agrees with every derivation.
-/

namespace EnvProfiles

/-- Filling in templates does not change which names there are. -/
@[simp] theorem Dict.get?_fillFrom (templates scope : Dict) (name : String) :
    (templates.fillFrom scope).get? name
      = (templates.get? name).map fun template => Template.fill template scope := by
  have hlookup : ∀ l : List (String × String),
      (l.map fun e => (e.1, Template.fill e.2 scope)).lookup name
        = (l.lookup name).map fun template => Template.fill template scope := by
    intro l
    induction l with
    | nil => rfl
    | cons e l ih =>
        rw [List.map_cons, lookup_cons, lookup_cons, ih]
        split <;> rfl
  have hascending : (templates.entries.map fun e => (e.1, Template.fill e.2 scope)).Pairwise
      fun a b => a.1 < b.1 :=
    List.pairwise_map.mpr templates.ascending
  -- Pairs are collected from the back, but the names ascend, so each is there once.
  rw [fillFrom, get?_ofList]
  change ((templates.entries.map fun e => (e.1, Template.fill e.2 scope)).reverse.lookup name) = _
  rw [lookup_reverse hascending, hlookup]
  rfl

/-- What a profile inherits, given what its ancestors come to. -/
def Document.inherited (doc : Document) (found : String → Resolution) : Dict :=
  doc.ancestors.foldl (fun scope ancestor => scope.inherit (found ancestor)) .empty

/-- What is seen of a resolved profile: its scope, and below it what it exports. -/
def Resolution.seen (res : Resolution) (name : String) : Option String :=
  (res.scope.get? name).or (res.exports.get? name)

/-- To take in an ancestor is to lay over what is seen of it. -/
@[simp] theorem Dict.get?_inherit (scope : Dict) (ancestor : Resolution) (name : String) :
    (scope.inherit ancestor).get? name = (ancestor.seen name).or (scope.get? name) := by
  simp [inherit, Resolution.seen, Option.or_assoc]

/-- What is inherited is what is seen of the ancestors, the last one first. -/
theorem Document.get?_inherited (doc : Document) (found : String → Resolution) (name : String) :
    (doc.inherited found).get? name
      = doc.ancestors.reverse.findSome? fun a => (found a).seen name := by
  simp [inherited, Dict.get?_foldl fun scope a => Dict.get?_inherit scope (found a) name]

/-- The profile's own local variables are seen before what it inherits. -/
theorem Document.get?_scope (doc : Document) (found : String → Resolution) (name : String) :
    (doc.complete (doc.inherited found)).scope.get? name
      = (doc.locals.get? name).or (doc.ancestors.reverse.findSome? fun a => (found a).seen name) :=
  (Dict.get?_merge _ _ _).trans (congrArg _ (get?_inherited doc found name))

/-- What a profile inherits depends on its own ancestors alone. -/
theorem Document.inherited_congr {doc : Document} {found other : String → Resolution}
    (h : ∀ a ∈ doc.ancestors, found a = other a) : doc.inherited found = doc.inherited other :=
  List.foldl_ext _ _ _ fun scope a ha => by rw [h a ha]

/-- A resolution is what a document says, given what its ancestors come to. A name in its scope has
the value that the document's own local variables give it, or else the last of the ancestors that
has it at all: each has it by its scope, or else by what it exports. The variables that the document
exports are exported, each with its template filled in from that scope. -/
structure FollowsRule (doc : Document) (found : String → Resolution) (res : Resolution) : Prop where
  scope : ∀ name, res.scope.get? name = (doc.locals.get? name).or
    (doc.ancestors.reverse.findSome? fun a =>
      ((found a).scope.get? name).or ((found a).exports.get? name))
  exports : ∀ name, res.exports.get? name
    = (doc.exports.get? name).map fun template => Template.fill template res.scope

/-- The rule has one resolution for given ancestors. -/
theorem followsRule_iff {doc : Document} {found : String → Resolution} {res : Resolution} :
    FollowsRule doc found res ↔ res = doc.complete (doc.inherited found) := by
  constructor
  · rintro ⟨hscope, hexports⟩
    obtain ⟨scope, exports⟩ := res
    have hfill : exports = doc.exports.fillFrom scope :=
      Dict.ext_get? fun name => (hexports name).trans (Dict.get?_fillFrom _ _ name).symm
    have hall : scope = (doc.complete (doc.inherited found)).scope :=
      Dict.ext_get? fun name => (hscope name).trans (doc.get?_scope found name).symm
    rw [hfill, hall]
    rfl
  · rintro rfl
    exact ⟨doc.get?_scope found, fun name => Dict.get?_fillFrom _ _ name⟩

variable {σ : Type} [KeyStore σ]

/-- A profile comes to a resolution, because its ancestors come to theirs. -/
inductive Resolves (store : σ) : String → Resolution → Prop where
  | intro {key : String} {doc : Document} {found : String → Resolution} :
    document store key = .ok doc → (∀ a ∈ doc.ancestors, Resolves store a (found a)) →
    Resolves store key (doc.complete (doc.inherited found))

namespace Resolves

variable {store : σ} {key : String} {res : Resolution}

/-- A profile comes to one resolution at most. -/
theorem unique {other : Resolution} (h : Resolves store key res) (h' : Resolves store key other) :
    res = other := by
  induction h generalizing other with
  | @intro key doc found hdoc _ ih =>
      cases h' with
      -- Both derivations read one document, and agree on what its ancestors come to.
      | @intro _ doc' found' hdoc' hfound' =>
          have heq : doc = doc' := Except.ok.inj (hdoc.symm.trans hdoc')
          subst heq
          rw [Document.inherited_congr fun a ha => ih a ha (hfound' a ha)]

theorem exists_document (h : Resolves store key res) : ∃ doc, document store key = .ok doc := by
  cases h with
  | intro hdoc _ => exact ⟨_, hdoc⟩

/-- If a profile comes to something, so do the profiles it names. -/
theorem of_extends {ancestor : String} (h : Resolves store key res)
    (hext : Extends store key ancestor) : ∃ done, Resolves store ancestor done := by
  cases h with
  | @intro _ doc found hdoc hfound =>
      exact ⟨found ancestor, hfound ancestor (hext.mem_ancestors hdoc)⟩

/-- If a profile comes to something, so do its ancestors. -/
theorem of_reaches {ancestor : String} (h : Resolves store key res)
    (hr : Reaches store key ancestor) : ∃ done, Resolves store ancestor done := by
  induction hr with
  | refl => exact ⟨res, h⟩
  | tail _ hext ih =>
      obtain ⟨done, hdone⟩ := ih
      exact hdone.of_extends hext

/-- A profile that comes to something does not lead back to itself. -/
theorem not_circular (h : Resolves store key res) : ¬ Circular store key := by
  induction h with
  | @intro key doc found hdoc _ ih =>
      intro hc
      -- The circle passes through an ancestor, and so would one of the ancestor's own.
      obtain ⟨a, hext, hback⟩ := Relation.TransGen.head'_iff.mp hc
      exact ih a (hext.mem_ancestors hdoc) (.tail' hback hext)

end Resolves

/-- What profiles come to is as the rule says, at every profile that can be reached. -/
def IsSolution (store : σ) (key : String) (found : String → Resolution) : Prop :=
  ∀ p, Reaches store key p → ∃ doc, document store p = .ok doc ∧ FollowsRule doc found (found p)

/-- A solution for a profile is one for those it leads to. -/
theorem IsSolution.of_reaches {store : σ} {key p : String} {found : String → Resolution}
    (h : IsSolution store key found) (hr : Reaches store key p) : IsSolution store p found :=
  fun _ hq => h _ (hr.trans hq)

/-- A solution agrees with every derivation. -/
theorem IsSolution.eq_of_resolves {store : σ} {key : String} {found : String → Resolution}
    {res : Resolution} (h : IsSolution store key found) (hres : Resolves store key res) :
    found key = res := by
  induction hres with
  | @intro key doc others hdoc _ ih =>
      obtain ⟨doc', hdoc', hrule⟩ := h key .refl
      have heq : doc' = doc := Except.ok.inj (hdoc'.symm.trans hdoc)
      subst heq
      rw [followsRule_iff.mp hrule]
      -- A solution for the profile is one for each of its ancestors, where the induction applies.
      refine congrArg _ (Document.inherited_congr fun a ha => ih a ha ?_)
      exact h.of_reaches (.single ⟨doc', hdoc, ha⟩)

end EnvProfiles
