import EnvProfiles.Proofs.Resolving.Depth
import EnvProfiles.Proofs.Resolving.Several
import EnvProfiles.Store.Memory

/-!
# Locals That No Template Reads

What a local variable can have an influence on. Its value is handed down through
the scopes of all that inherit it, and it may hide or be hidden by others of its
name, but it gets out of scopes in one way only: through a template that asks for
its name. If no template of the profiles that are reached does, then the variable
can be given another value in any of them, or be added or removed, and what is
exported is the same.

Two stores that differ in this way are resolved side by side. All along, the
scopes of a profile differ at most in that one name, and its exports do not
differ at all; faults are the same, since they do not depend on any value.

## Main definitions

* `Dict.AlikeBut`, `Document.AlikeBut`, `Resolution.AlikeBut`: Alike but for what
  one name stands for in a scope.
* `AlikeBut`: Stores whose documents are alike in this sense.
* `Unread`: No template of the profiles that are reached asks for a name.
* `SideBySide`: Two outcomes are the same fault or related results.

## Theorems

* `gather_sideBySide`: Rows of resolutions side by side.
* `Document.AlikeBut.complete`: A name that no template asks for stays in scope.
* `resolveAlong_sideBySide`: Plain resolution on two such stores.
* `resolveProfiles_unread`: What profiles export does not depend on such a name.
* `resolveProfiles_noted`: A note that is handed down and never read.
-/

namespace EnvProfiles

/-! ### Outcomes side by side -/

/-- Two outcomes are the same fault, or results that are related. -/
inductive SideBySide {α β : Type} (related : α → β → Prop) : Except Fault α → Except Fault β → Prop
  | ok {a : α} {b : β} : related a b → SideBySide related (.ok a) (.ok b)
  | error (fault : Fault) : SideBySide related (.error fault) (.error fault)

theorem SideBySide.map {α β γ δ : Type} {related : α → β → Prop} {related' : γ → δ → Prop}
    {f : α → γ} {g : β → δ} {x : Except Fault α} {y : Except Fault β} (h : SideBySide related x y)
    (hfg : ∀ a b, related a b → related' (f a) (g b)) :
    SideBySide related' (x.map f) (y.map g) := by
  cases h with
  | ok hab => exact .ok (hfg _ _ hab)
  | error fault => exact .error fault

/-- Outcomes that can only be equal are equal. -/
theorem SideBySide.eq {α : Type} {x y : Except Fault α} (h : SideBySide (fun a b => b = a) x y) :
    y = x := by
  cases h with
  | ok hab => rw [hab]
  | error fault => rfl

/-- Rows of resolutions stay side by side if every step does. -/
theorem gather_sideBySide {visit other : String → Except Fault Resolution}
    {take : Dict → Resolution → Dict} {alike : Resolution → Resolution → Prop}
    {related : Dict → Dict → Prop} {keys : List String} {taken taken' : Dict}
    (hvisit : ∀ key ∈ keys, SideBySide alike (visit key) (other key))
    (htake : ∀ d d' res res', related d d' → alike res res' → related (take d res) (take d' res'))
    (h : related taken taken') :
    SideBySide related (gather visit take keys taken) (gather other take keys taken') := by
  induction keys generalizing taken taken' with
  | nil => exact .ok h
  | cons key keys ih =>
      have hkey := hvisit key List.mem_cons_self
      have hkeys := fun k hk => hvisit k (List.mem_cons_of_mem key hk)
      -- The two rows go on together or stop together.
      generalize hv : visit key = x, ho : other key = y at hkey
      cases hkey with
      | ok hdone =>
          rw [gather_cons_ok hv, gather_cons_ok ho]
          exact ih hkeys (htake _ _ _ _ h hdone)
      | error fault =>
          rw [gather_cons_error hv, gather_cons_error ho]
          exact .error fault

/-! ### Alike but for one name -/

/-- Two dictionaries have the same values but for one name. -/
def Dict.AlikeBut (name : String) (d other : Dict) : Prop :=
  ∀ n, n ≠ name → other.get? n = d.get? n

theorem Dict.AlikeBut.refl (name : String) (d : Dict) : d.AlikeBut name d := fun _ _ => rfl

theorem Dict.alikeBut_insert (name value : String) (d : Dict) :
    d.AlikeBut name (d.insert name value) := by
  intro n hn
  simp [hn]

theorem Dict.alikeBut_erase (name : String) (d : Dict) : d.AlikeBut name (d.erase name) := by
  intro n hn
  simp [hn]

theorem Dict.AlikeBut.merge {name : String} {d d' upper upper' : Dict} (h : d.AlikeBut name d')
    (hupper : upper.AlikeBut name upper') : (d.merge upper).AlikeBut name (d'.merge upper') := by
  intro n hn
  simp [h n hn, hupper n hn]

/-- Two documents say the same but for a local variable of one name. -/
structure Document.AlikeBut (name : String) (doc other : Document) : Prop where
  ancestors : other.ancestors = doc.ancestors
  exports : other.exports = doc.exports
  locals : doc.locals.AlikeBut name other.locals

/-- Two resolutions export the same, and their scopes are alike but for one name. -/
structure Resolution.AlikeBut (name : String) (res other : Resolution) : Prop where
  scope : res.scope.AlikeBut name other.scope
  exports : other.exports = res.exports

/-- To take in ancestors that are alike keeps scopes alike. -/
theorem Dict.AlikeBut.inherit {name : String} {d d' : Dict} {res res' : Resolution}
    (h : d.AlikeBut name d') (hres : res.AlikeBut name res') :
    (d.inherit res).AlikeBut name (d'.inherit res') :=
  (h.merge (hres.exports ▸ .refl name _)).merge hres.scope

/-- No template of a document asks for a name. -/
def Document.Unread (doc : Document) (name : String) : Prop :=
  ∀ n template, doc.exports.get? n = some template → name ∉ Template.placeholders template

/-- A name that no template asks for stays in scope. -/
theorem Document.AlikeBut.complete {name : String} {doc other : Document}
    {inherited inherited' : Dict} (h : doc.AlikeBut name other) (hunread : doc.Unread name)
    (hinherited : inherited.AlikeBut name inherited') :
    (doc.complete inherited).AlikeBut name (other.complete inherited') := by
  have hscope := hinherited.merge h.locals
  refine ⟨hscope, Dict.ext_get? fun n => ?_⟩
  rw [get?_exports, get?_exports, h.exports]
  cases htemplate : doc.exports.get? n with
  | none => rfl
  | some template =>
      -- The template asks for other names only, and these have the same values.
      refine congrArg some (Template.fill_congr fun m hm => hscope m ?_)
      rintro rfl
      exact hunread n template htemplate hm

/-! ### Stores that differ in what is not read -/

variable {σ τ : Type} [KeyStore σ] [KeyStore τ] {store : σ} {other : τ} {name key : String}

/-- Under every key, two stores have the same text or none, or texts of documents that say the same
but for a local variable of one name. -/
def AlikeBut (name : String) (store : σ) (other : τ) : Prop :=
  ∀ key, KeyStore.get? other key = KeyStore.get? store key ∨
    ∃ doc doc', document store key = .ok doc ∧ document other key = .ok doc' ∧
      doc.AlikeBut name doc'

/-- No template of the profiles that a profile leads to asks for a name. -/
def Unread (store : σ) (key name : String) : Prop :=
  ∀ p, Reaches store key p → ∀ doc, document store p = .ok doc → doc.Unread name

theorem Unread.of_extends {ancestor : String} (h : Unread store key name)
    (hext : Extends store key ancestor) : Unread store ancestor name :=
  fun p hp => h p (.head hext hp)

theorem AlikeBut.document_sideBySide (h : AlikeBut name store other) (key : String) :
    SideBySide (Document.AlikeBut name) (document store key) (document other key) := by
  rcases h key with hsame | ⟨doc, doc', hdoc, hdoc', halike⟩
  · have heq : document other key = document store key := by rw [document, hsame, document]
    rw [heq]
    cases document store key with
    | ok doc => exact .ok ⟨rfl, rfl, .refl name _⟩
    | error fault => exact .error fault
  · rw [hdoc, hdoc']
    exact .ok halike

/-- Plain resolution goes the same way on both stores, and comes to what is alike. -/
theorem resolveAlong_sideBySide {path : List String} (h : AlikeBut name store other)
    (hunread : Unread store key name) :
    SideBySide (Resolution.AlikeBut name) (resolveAlong store path key)
      (resolveAlong other path key) := by
  fun_induction resolveAlong store path key with
  | case1 path key hp =>
      rw [resolveAlong_of_mem hp]
      exact .error _
  | case2 path key hp fault hd =>
      have hdoc := h.document_sideBySide key
      rw [hd] at hdoc
      generalize hd' : document other key = outcome at hdoc
      cases hdoc
      rw [resolveAlong_unread hp hd']
      exact .error fault
  | case3 path key hp doc hd ih =>
      have hdoc := h.document_sideBySide key
      rw [hd] at hdoc
      generalize hd' : document other key = outcome at hdoc
      cases hdoc with
      | ok halike =>
          rw [resolveAlong_read hp hd', halike.ancestors]
          -- The ancestors are the same, and their resolutions are side by side by induction.
          have hrow : SideBySide (Dict.AlikeBut name)
              (gather (resolveAlong store (path ++ [key])) Dict.inherit doc.ancestors .empty)
              (gather (resolveAlong other (path ++ [key])) Dict.inherit doc.ancestors .empty) :=
            gather_sideBySide (fun a ha => ih a (hunread.of_extends ⟨doc, hd, ha⟩))
              (fun _ _ _ _ hscope hres => hscope.inherit hres) (.refl name _)
          exact hrow.map fun _ _ hinherited => halike.complete (hunread key .refl doc hd) hinherited

/-- A local variable that no template reads has no influence on what is exported. If two stores have
the same texts but for the local variables of one name, and no template of the profiles that are
reached asks for that name, then a row of profiles exports the same on both, or fails alike. -/
theorem resolveProfiles_unread (store : σ) (other : τ) (name : String) (keys : List String)
    (h : AlikeBut name store other) (hunread : ∀ key ∈ keys, Unread store key name) :
    resolveProfiles other keys = resolveProfiles store keys := by
  have hvisit : ∀ key ∈ keys, SideBySide (Resolution.AlikeBut name) (resolveProfile store key)
      (resolveProfile other key) := by
    intro key hkey
    rw [resolveProfile, resolveProfile, (Resolver.ready_fresh other).resolve_eq,
      (Resolver.ready_fresh store).resolve_eq]
    exact resolveAlong_sideBySide h (hunread key hkey)
  rw [resolveProfiles_eq_gather, resolveProfiles_eq_gather]
  refine SideBySide.eq (gather_sideBySide hvisit ?_ rfl)
  intro d d' res res' hd hres
  rw [Dict.collect, Dict.collect, hd, hres.exports]

/-- A note is kept in one profile, handed down to a second and read in a third. -/
def noted : MemoryStore :=
  ⟨.ofList [
    ("base", "local:\n  root: /opt\n  note: old\nenv:\n  BIN: $root/bin\n"),
    ("tool", "extends: [base]\nenv:\n  PATH: $BIN:/bin\n"),
    ("news", "extends: [tool]\nenv:\n  NOTE: $note\n")]⟩

/-- The same profiles, the first without the note and the second with one of its own. -/
def renoted : MemoryStore :=
  ⟨(noted.dict.insert "base" "local:\n  root: /opt\nenv:\n  BIN: $root/bin\n").insert
    "tool" "extends: [base]\nlocal:\n  note: $root\nenv:\n  PATH: $BIN:/bin\n"⟩

theorem document_noted_tool : document noted "tool"
    = .ok ⟨["base"], .empty, .ofList [("PATH", "$BIN:/bin")]⟩ :=
  eq_ok_of_toOption (by decide +kernel)

theorem document_noted_base : document noted "base"
    = .ok ⟨[], .ofList [("root", "/opt"), ("note", "old")], .ofList [("BIN", "$root/bin")]⟩ :=
  eq_ok_of_toOption (by decide +kernel)

theorem alikeBut_noted : AlikeBut "note" noted renoted := by
  intro key
  by_cases htool : key = "tool"
  · have hdoc' : document renoted "tool" = .ok ⟨["base"],
        Dict.empty.insert "note" "$root", .ofList [("PATH", "$BIN:/bin")]⟩ :=
      eq_ok_of_toOption (by decide +kernel)
    exact htool ▸ .inr ⟨_, _, document_noted_tool, hdoc', rfl, rfl, Dict.alikeBut_insert _ _ _⟩
  · by_cases hbase : key = "base"
    · have hdoc' : document renoted "base" = .ok ⟨[],
          (Dict.ofList [("root", "/opt"), ("note", "old")]).erase "note",
          .ofList [("BIN", "$root/bin")]⟩ :=
        eq_ok_of_toOption (by decide +kernel)
      exact hbase ▸ .inr ⟨_, _, document_noted_base, hdoc', rfl, rfl, Dict.alikeBut_erase _ _⟩
    · refine .inl (congrArg Except.ok ?_)
      simp [renoted, htool, hbase]

theorem unread_noted : Unread noted "tool" "note" := by
  -- Nothing else is reached than these two profiles.
  have hclosed : ∀ k ∈ ["tool", "base"], ∀ doc ∈ (document noted k).toOption,
      ∀ a ∈ doc.ancestors, a ∈ ["tool", "base"] := by
    rw [List.forall_mem_cons, List.forall_mem_singleton, document_noted_tool, document_noted_base]
    exact ⟨fun doc hdoc => Option.some.inj hdoc ▸ by decide,
      fun doc hdoc => Option.some.inj hdoc ▸ by decide⟩
  intro p hp doc hd n template htemplate
  have hmem := mem_of_reaches hclosed List.mem_cons_self hp
  have hexport := Dict.mem_of_lookup htemplate
  rcases List.mem_pair.mp hmem with rfl | rfl
  · cases document_noted_tool.symm.trans hd
    cases List.mem_singleton.mp hexport
    decide +kernel
  · cases document_noted_base.symm.trans hd
    cases List.mem_singleton.mp hexport
    decide +kernel

/-- `tool` inherits the note in one store and has its own in the other, so that its scopes differ,
but it exports the same on both. -/
theorem resolveProfiles_noted : AlikeBut "note" noted renoted ∧
    (∀ key ∈ ["tool"], Unread noted key "note") ∧
    resolveProfile renoted "tool" ≠ resolveProfile noted "tool" ∧
    resolveProfiles renoted ["tool"] = .ok (.ofList [("PATH", "/opt/bin:/bin")]) := by
  have hunread : ∀ key ∈ ["tool"], Unread noted key "note" :=
    fun key hkey => List.mem_singleton.mp hkey ▸ unread_noted
  have hnoted : resolveProfile noted "tool" = .ok ⟨.ofList [("root", "/opt"), ("note", "old"),
      ("BIN", "/opt/bin")], .ofList [("PATH", "/opt/bin:/bin")]⟩ :=
    resolveProfile_eq_of_within 2 (by decide +kernel)
  have hrenoted : resolveProfile renoted "tool" = .ok ⟨.ofList [("root", "/opt"),
      ("note", "$root"), ("BIN", "/opt/bin")], .ofList [("PATH", "/opt/bin:/bin")]⟩ :=
    resolveProfile_eq_of_within 2 (by decide +kernel)
  refine ⟨alikeBut_noted, hunread, ?_, ?_⟩
  · rw [hnoted, hrenoted]
    decide +kernel
  · rw [resolveProfiles_unread noted renoted "note" ["tool"] alikeBut_noted hunread,
      resolveProfiles_eq_gather, gather_cons_ok hnoted]
    exact congrArg Except.ok (by decide +kernel)

end EnvProfiles
