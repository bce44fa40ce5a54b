import EnvProfiles.Profile.Document
import EnvProfiles.Proofs.Documents.Texts
import EnvProfiles.Proofs.Overlay
import Mathlib.Data.List.Forall2

/-!
# Which Values Are Profiles

What a YAML value has to look like to be a profile, what it says then, and what
is reported if it is none. Each of the three is told by rules about the value
alone.

What is wrong is looked for in a fixed order: the root, then the ancestors, then
the local block, then the exported block, in a block one entry after the other,
and of an entry the name before its value. So the rule of each fault says what
has been found in order before it.

A field that is missing and one that is null are the same here, as they are for
a profile.

## Main definitions

* `Yaml.Value.IsName`, `Yaml.Value.IsWord`: What names of ancestors, and what names and values of
  variables can be.
* `Yaml.Value.Called`: What the kind of a value is called.
* `Field`: What stands under a key.
* `IsProfile`: A value that is a profile.
* `Says`: What a profile says.
* `FirstFault`: What is wrong with a value, in words.

## Theorems

* `isWord_iff`: The single words are the values that have a text.
* `field_iff`: What stands under a key is what is found there.
* `mapM_eq_ok`, `mapM_eq_error`: Checks one after the other.
-/

namespace EnvProfiles

open Yaml (Value)

/-! ### Shapes of values -/

namespace Yaml.Value

/-- A single word that is no null: a truth value, a number or a text. -/
inductive IsName : Value → Prop
  | bool (b : Bool) : IsName (.bool b)
  | int (n : ℤ) : IsName (.int n)
  | float (x : Double) : IsName (.float x)
  | text (s : String) : IsName (.text s)

/-- A single word: a null, a truth value, a number or a text. -/
inductive IsWord : Value → Prop
  | null : IsWord .null
  | name {v : Value} : IsName v → IsWord v

/-- What the kind of a value is called. -/
inductive Called : Value → String → Prop
  | null : Called .null "null"
  | bool (b : Bool) : Called (.bool b) "a boolean"
  | int (n : ℤ) : Called (.int n) "a number"
  | float (x : Double) : Called (.float x) "a number"
  | text (s : String) : Called (.text s) "a string"
  | sequence (items : List Value) : Called (.sequence items) "a sequence"
  | mapping (entries : List (Value × Value)) : Called (.mapping entries) "a mapping"
  | tagged (tag : String) (v : Value) : Called (.tagged tag v) "a tagged value"

variable {v : Value}

theorem isWord_iff : IsWord v ↔ ∃ s, v.HasText s := by
  simp only [Value.hasText_iff, ← Option.isSome_iff_exists]
  cases v with
  | null => exact ⟨fun _ => rfl, fun _ => .null⟩
  | bool b => exact ⟨fun _ => rfl, fun _ => .name (.bool b)⟩
  | int n => exact ⟨fun _ => rfl, fun _ => .name (.int n)⟩
  | float x => exact ⟨fun _ => rfl, fun _ => .name (.float x)⟩
  | text s => exact ⟨fun _ => rfl, fun _ => .name (.text s)⟩
  | sequence _ | mapping _ | tagged _ _ =>
      exact ⟨fun h => (by rcases h with _ | ⟨⟨⟩⟩), fun h => (nomatch h)⟩

theorem scalarText?_eq_none_iff : v.scalarText? = none ↔ ¬ IsWord v := by
  rw [isWord_iff, ← Option.not_isSome_iff_eq_none, Option.isSome_iff_exists]
  simp only [Value.hasText_iff]

theorem isName_iff : IsName v ↔ v ≠ .null ∧ IsWord v := by
  constructor
  · intro h
    exact ⟨(by rintro rfl; cases h), .name h⟩
  · rintro ⟨hne, _ | h⟩
    · exact absurd rfl hne
    · exact h

theorem called_iff {kind : String} : Called v kind ↔ (Shape.ofValue v).name = kind := by
  constructor
  · intro h
    cases h <;> rfl
  · rintro rfl
    cases v <;> constructor

theorem isText_iff {s : String} : v.isText s = true ↔ v = .text s := by
  cases v with
  | text t => exact beq_iff_eq.trans ⟨congrArg Value.text, fun h => by cases h; rfl⟩
  | null | bool _ | int _ | float _ | sequence _ | mapping _ | tagged _ _ =>
      exact ⟨fun h => (nomatch h), fun h => (nomatch h)⟩

end Yaml.Value

namespace Document

variable {key : String} {v : Value} {entries : List (Value × Value)}

/-- What stands under a key of a mapping, or a null if there is no such key. -/
inductive Field (key : String) : List (Value × Value) → Value → Prop
  | found {before after : List (Value × Value)} {v : Value} :
    (∀ entry ∈ before, entry.1 ≠ .text key) → Field key (before ++ (.text key, v) :: after) v
  | missing {entries : List (Value × Value)} :
    (∀ entry ∈ entries, entry.1 ≠ .text key) → Field key entries .null

/-- Names of ancestors: a null, or a sequence of single words that are no nulls. -/
inductive IsAncestry : Value → Prop
  | null : IsAncestry .null
  | sequence {items : List Value} : (∀ item ∈ items, item.IsName) → IsAncestry (.sequence items)

/-- A block of variables: a null, or a mapping of single words to single words. -/
inductive IsBlock : Value → Prop
  | null : IsBlock .null
  | mapping {entries : List (Value × Value)} :
    (∀ entry ∈ entries, entry.1.IsWord ∧ entry.2.IsWord) → IsBlock (.mapping entries)

/-- A profile: a null, or a mapping with names of ancestors and two blocks of variables. -/
inductive IsProfile : Value → Prop
  | null : IsProfile .null
  | mapping {entries : List (Value × Value)} {ancestors locals exports : Value} :
    Field "extends" entries ancestors → IsAncestry ancestors →
    Field "local" entries locals → IsBlock locals →
    Field "env" entries exports → IsBlock exports → IsProfile (.mapping entries)

/-! ### What a profile says -/

/-- The names of ancestors, taken as their texts. -/
inductive Names : Value → List String → Prop
  | null : Names .null []
  | sequence {items : List Value} {names : List String} :
    List.Forall₂ Value.HasText items names → Names (.sequence items) names

/-- The last entry of a name among those of a block, with names and values taken as their texts. -/
inductive LastEntry (name value : String) : Value → Prop
  | mapping {before after : List (Value × Value)} {k v : Value} :
    k.HasText name → v.HasText value → (∀ entry ∈ after, ¬ entry.1.HasText name) →
    LastEntry name value (.mapping (before ++ (k, v) :: after))

/-- Variables are those of a block, each with the value of the last entry of its name. -/
def Variables (block : Value) (found : Dict) : Prop :=
  ∀ name value, found.get? name = some value ↔ LastEntry name value block

/-- What a profile says. -/
inductive Says : Value → Document → Prop
  | null {doc : Document} : Names .null doc.ancestors → Variables .null doc.locals →
    Variables .null doc.exports → Says .null doc
  | mapping {entries : List (Value × Value)} {ancestors locals exports : Value} {doc : Document} :
    Field "extends" entries ancestors → Names ancestors doc.ancestors →
    Field "local" entries locals → Variables locals doc.locals →
    Field "env" entries exports → Variables exports doc.exports → Says (.mapping entries) doc

/-! ### What is wrong with a value -/

/-- What is wrong with names of ancestors: with the value, or else with the first that is none. -/
inductive AncestryFault : Value → String → Prop
  | shape {v : Value} {kind : String} : v ≠ .null → (∀ items, v ≠ .sequence items) →
    v.Called kind → AncestryFault v ("extends must be a sequence, found " ++ kind)
  | item {before after : List Value} {item : Value} {kind : String} :
    (∀ other ∈ before, other.IsName) → ¬ item.IsName → item.Called kind →
    AncestryFault (.sequence (before ++ item :: after))
      ("extends entries must be profile names, found " ++ kind)

/-- What is wrong with an entry of a block: with the name, or else with the value. -/
inductive EntryFault (field : String) : Value × Value → String → Prop
  | name {k v : Value} {kind : String} : ¬ k.IsWord → k.Called kind →
    EntryFault field (k, v) (field ++ " keys must be scalars, found " ++ kind)
  | value {k v : Value} {name kind : String} : k.HasText name → ¬ v.IsWord → v.Called kind →
    EntryFault field (k, v) (field ++ "." ++ name ++ " must be a scalar, found " ++ kind)

/-- What is wrong with a block: with the value, or else with the first entry that is none. -/
inductive BlockFault (field : String) : Value → String → Prop
  | shape {v : Value} {kind : String} : v ≠ .null → (∀ entries, v ≠ .mapping entries) →
    v.Called kind → BlockFault field v (field ++ " must be a mapping, found " ++ kind)
  | entry {before after : List (Value × Value)} {entry : Value × Value} {message : String} :
    (∀ other ∈ before, other.1.IsWord ∧ other.2.IsWord) → EntryFault field entry message →
    BlockFault field (.mapping (before ++ entry :: after)) message

/-- The first thing that is wrong with a value: with the root, the ancestors, the local block or the
exported block. -/
inductive FirstFault : Value → String → Prop
  | root {v : Value} {kind : String} : v ≠ .null → (∀ entries, v ≠ .mapping entries) →
    v.Called kind → FirstFault v ("expected a mapping, found " ++ kind)
  | ancestors {entries : List (Value × Value)} {ancestors : Value} {message : String} :
    Field "extends" entries ancestors → AncestryFault ancestors message →
    FirstFault (.mapping entries) message
  | locals {entries : List (Value × Value)} {ancestors locals : Value} {message : String} :
    Field "extends" entries ancestors → IsAncestry ancestors →
    Field "local" entries locals → BlockFault "local" locals message →
    FirstFault (.mapping entries) message
  | exports {entries : List (Value × Value)} {ancestors locals exports : Value}
    {message : String} : Field "extends" entries ancestors → IsAncestry ancestors →
    Field "local" entries locals → IsBlock locals →
    Field "env" entries exports → BlockFault "env" exports message →
    FirstFault (.mapping entries) message

/-- What stands under a key is what is found there. -/
theorem field_iff : Field key entries v ↔ (Value.find? key entries).getD .null = v := by
  -- Entries with other keys are passed over.
  have hother : ∀ {l : List (Value × Value)}, (∀ entry ∈ l, entry.1 ≠ .text key) →
      l.find? (fun e => e.1.isText key) = none := fun h =>
    List.find?_eq_none.mpr fun entry hentry hc => h entry hentry (Value.isText_iff.mp hc)
  constructor
  · intro h
    cases h with
    | found hbefore =>
        have hself : Value.isText key (Value.text key, v).1 = true := Value.isText_iff.mpr rfl
        rw [Value.find?, List.find?_append, hother hbefore, Option.none_or, List.find?_cons, hself]
        rfl
    | missing hnone =>
        rw [Value.find?, hother hnone]
        rfl
  · rintro rfl
    rw [Value.find?]
    cases hfound : entries.find? (fun e => e.1.isText key) with
    | none => exact .missing fun entry hentry hc =>
        List.find?_eq_none.mp hfound entry hentry (Value.isText_iff.mpr hc)
    | some entry =>
        obtain ⟨htext, before, after, rfl, hbefore⟩ := List.find?_eq_some_iff_append.mp hfound
        obtain ⟨k, w⟩ := entry
        obtain rfl := Value.isText_iff.mp htext
        refine .found fun other hmem hc => ?_
        have hother := hbefore other hmem
        rw [Value.isText_iff.mpr hc] at hother
        exact nomatch hother

end Document

/-! ### Checks one after the other -/

section Traversal

variable {ε α β : Type} {f : α → Except ε β} {l : List α} {fault : ε}

/-- All checks succeed. -/
theorem mapM_eq_ok {found : List β} :
    l.mapM f = .ok found ↔ List.Forall₂ (fun a b => f a = .ok b) l found := by
  induction l generalizing found with
  | nil =>
      rw [List.forall₂_nil_left_iff]
      exact ⟨fun h => (Except.ok.inj h).symm, fun h => h ▸ rfl⟩
  | cons a l ih =>
      rw [List.mapM_cons, List.forall₂_cons_left_iff]
      cases ha : f a with
      | error fault => exact ⟨fun h => (nomatch h), fun ⟨_, _, h, _⟩ => (nomatch h)⟩
      | ok b =>
          constructor
          · intro h
            cases hl : l.mapM f with
            | error fault => exact absurd (hl ▸ h) nofun
            | ok rest =>
                rw [hl] at h
                exact ⟨b, rest, rfl, ih.mp hl, (Except.ok.inj h).symm⟩
          · rintro ⟨_, rest, hb, hrest, rfl⟩
            cases hb
            rw [ih.mpr hrest]
            rfl

/-- The first check that fails decides, after others that succeed. -/
theorem mapM_eq_error : l.mapM f = .error fault ↔
    ∃ before a after, l = before ++ a :: after ∧ (∀ other ∈ before, ∃ b, f other = .ok b) ∧
      f a = .error fault := by
  induction l with
  | nil => exact ⟨fun h => (nomatch h), fun ⟨before, _, _, h, _⟩ => by cases before <;> cases h⟩
  | cons a l ih =>
      rw [List.mapM_cons]
      cases ha : f a with
      | error first =>
          constructor
          · intro h
            cases h
            exact ⟨[], a, l, rfl, fun _ h => (nomatch h), ha⟩
          · rintro ⟨before, x, after, hl, hbefore, hx⟩
            cases before with
            | nil =>
                cases hl
                rw [Except.error.inj (ha.symm.trans hx)]
                rfl
            | cons y before =>
                cases hl
                -- The one that fails stands further on, but then this one succeeds.
                obtain ⟨b, hb⟩ := hbefore a List.mem_cons_self
                exact absurd (ha.symm.trans hb) nofun
      | ok b =>
          -- A check that succeeds leaves the fault to the later ones.
          have hrest : (Except.ok b >>= fun b => l.mapM f >>= fun r => pure (b :: r)) =
              Except.error fault ↔ l.mapM f = .error fault := by
            cases l.mapM f with
            | error other => exact ⟨fun h => congrArg _ (Except.error.inj h),
                fun h => congrArg _ (Except.error.inj h)⟩
            | ok rest => exact ⟨fun h => (nomatch h), fun h => (nomatch h)⟩
          rw [hrest, ih]
          constructor
          · rintro ⟨before, x, after, rfl, hbefore, hx⟩
            exact ⟨a :: before, x, after, rfl,
              List.forall_mem_cons.mpr ⟨⟨b, ha⟩, hbefore⟩, hx⟩
          · rintro ⟨before, x, after, hl, hbefore, hx⟩
            cases before with
            | nil =>
                cases hl
                exact absurd (ha.symm.trans hx) nofun
            | cons y before =>
                cases hl
                exact ⟨before, x, after, rfl, (List.forall_mem_cons.mp hbefore).2, hx⟩

end Traversal

end EnvProfiles
