import EnvProfiles.Proofs.Resolving.Solution

/-!
# Scopes

Which names the scope of a resolved profile has, and where their values come
from. A scope is built from the bottom: dictionaries are laid over each other,
two for each ancestor, and those of the ancestors are built in the same way. Read
from the top it is simple, since whatever was laid down last is seen first: the
profile's own local variables, and then its ancestors, the last one first, each
of them with its scope before its exports.

The names need no order at all. They are those that the profile has in its local
block and those that an ancestor has in either block, however far away it is.

## Main definitions

* `DeclaresLocal`, `DeclaresExport`: A profile's document has a name in a block.

## Theorems

* `Resolves.mem_names_exports`: A profile exports the names that it declares.
* `Resolves.mem_names_scope`: The names in the scope of a profile.
-/

namespace EnvProfiles

/-! ### A scope and the ancestors -/

/-- To collect what a profile exports is to lay it over what there was. -/
theorem Dict.get?_collect (exports : Dict) (done : Resolution) (name : String) :
    (exports.collect done).get? name = (done.exports.get? name).or (exports.get? name) :=
  get?_merge _ _ _

namespace Document

/-- An exported variable is its template, filled in from the scope. -/
theorem get?_exports (doc : Document) (inherited : Dict) (name : String) :
    (doc.complete inherited).exports.get? name
      = (doc.exports.get? name).map fun template =>
          Template.fill template (doc.complete inherited).scope :=
  Dict.get?_fillFrom _ _ _

theorem mem_names_exports {doc : Document} {inherited : Dict} {name : String} :
    name ∈ (doc.complete inherited).exports.names ↔ name ∈ doc.exports.names := by
  simp only [Dict.mem_names_iff, get?_exports, Option.map_eq_some_iff]
  exact ⟨fun ⟨_, template, h, _⟩ => ⟨template, h⟩, fun ⟨template, h⟩ => ⟨_, template, h, rfl⟩⟩

end Document

theorem Resolution.seen_isSome {res : Resolution} {name : String} :
    (res.seen name).isSome ↔ name ∈ res.scope.names ∨ name ∈ res.exports.names := by
  rw [seen, Option.isSome_or, Bool.or_eq_true, Dict.isSome_get?, Dict.isSome_get?]

/-- A name is in scope if the profile has it in its local block or sees it of an ancestor. -/
theorem Document.mem_names_scope {doc : Document} {found : String → Resolution} {name : String} :
    name ∈ (doc.complete (doc.inherited found)).scope.names ↔
      name ∈ doc.locals.names ∨
        ∃ a ∈ doc.ancestors, name ∈ (found a).scope.names ∨ name ∈ (found a).exports.names := by
  rw [← Dict.isSome_get?, get?_scope, Option.isSome_or, Bool.or_eq_true, Dict.isSome_get?,
    List.findSome?_isSome_iff]
  simp only [List.mem_reverse, Resolution.seen_isSome]

/-! ### Declarations -/

variable {σ : Type} [KeyStore σ]

/-- The document of a profile has a name in its local block. -/
def DeclaresLocal (store : σ) (key name : String) : Prop :=
  ∃ doc, document store key = .ok doc ∧ name ∈ doc.locals.names

/-- The document of a profile has a name among the variables it exports. -/
def DeclaresExport (store : σ) (key name : String) : Prop :=
  ∃ doc, document store key = .ok doc ∧ name ∈ doc.exports.names

section Declares

variable {store : σ} {key name : String} {doc : Document}

theorem declaresLocal_iff (hd : document store key = .ok doc) :
    DeclaresLocal store key name ↔ name ∈ doc.locals.names := by
  simp only [DeclaresLocal, hd, Except.ok.injEq, exists_eq_left']

theorem declaresExport_iff (hd : document store key = .ok doc) :
    DeclaresExport store key name ↔ name ∈ doc.exports.names := by
  simp only [DeclaresExport, hd, Except.ok.injEq, exists_eq_left']

end Declares

namespace Resolves

variable {store : σ} {key name : String} {res : Resolution}

/-- A profile exports the names that it declares, and no others. -/
theorem mem_names_exports (h : Resolves store key res) :
    name ∈ res.exports.names ↔ DeclaresExport store key name := by
  cases h with
  | intro hd _ => rw [Document.mem_names_exports, declaresExport_iff hd]

/-- A name is in the scope of a profile if the profile has it in its local block or a proper
ancestor has it in either block. -/
theorem mem_names_scope (h : Resolves store key res) :
    name ∈ res.scope.names ↔ DeclaresLocal store key name ∨
      ∃ a, Relation.TransGen (Extends store) key a ∧
        (DeclaresLocal store a name ∨ DeclaresExport store a name) := by
  induction h with
  | @intro key doc found hd hfound ih =>
      rw [Document.mem_names_scope, declaresLocal_iff hd]
      refine or_congr_right ⟨?_, ?_⟩
      · rintro ⟨a, ha, hname⟩
        have hext : Extends store key a := ⟨doc, hd, ha⟩
        rw [ih a ha, (hfound a ha).mem_names_exports] at hname
        rcases hname with (hlocal | ⟨b, hb, hname⟩) | hexport
        · exact ⟨a, .single hext, .inl hlocal⟩
        · exact ⟨b, .head hext hb, hname⟩
        · exact ⟨a, .single hext, .inr hexport⟩
      · rintro ⟨b, hb, hname⟩
        obtain ⟨a, hext, hreach⟩ := Relation.TransGen.head'_iff.mp hb
        have ha := hext.mem_ancestors hd
        refine ⟨a, ha, ?_⟩
        rw [ih a ha, (hfound a ha).mem_names_exports]
        -- The declaration is the ancestor's own, or an ancestor's of it.
        rcases Relation.reflTransGen_iff_eq_or_transGen.mp hreach with rfl | hreach
        · exact hname.imp_left .inl
        · exact .inl (.inr ⟨b, hreach, hname⟩)

end Resolves

end EnvProfiles
