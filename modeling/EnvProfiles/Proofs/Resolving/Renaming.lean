import EnvProfiles.Proofs.Resolving.Redundancy
import EnvProfiles.Proofs.Stores.Kinds

/-!
# Renamed Profiles

What becomes of the profiles of a store when one of them is given another name.
Under its new name it comes to what it came to before, since nothing in its text
says what it is called. Profiles that lead to neither name notice nothing. Those
that lead to the old name now name a profile that is missing, and that is what a
resolver reports of them: whatever it goes through before it gets there is as it
was, and was resolved.

That the new name is not one the profile leads to is what keeps the profile from
becoming its own ancestor. The text that was under the new name is lost, so
nothing is said of profiles that lead there.

## Main definitions

* `Moved`: A store in which a text is under another key.

## Theorems

* `Moved.resolves`: A renamed profile comes to what it came to before.
* `Moved.resolveAlong_eq`: A profile that led to the old name meets it missing.
* `resolveProfile_rename`: What renaming does to every profile.
* `resolveProfile_rename_layered`: A profile of `layered` takes another's name.
-/

namespace EnvProfiles

variable {σ τ : Type} [KeyStore σ] [KeyStore τ] {store : σ} {other : τ} {key newKey : String}

/-- The text of a key is under another one, and all other texts are where they were. -/
structure Moved (store : σ) (other : τ) (key newKey : String) : Prop where
  gone : KeyStore.get? other key = .ok none
  there : KeyStore.get? other newKey = KeyStore.get? store key
  kept : ∀ k, k ≠ key → k ≠ newKey → KeyStore.get? other k = KeyStore.get? store k

namespace Moved

/-- What leads to neither key is not affected. -/
theorem agree {p : String} (h : Moved store other key newKey) (hkey : ¬ Reaches store p key)
    (hnew : ¬ Reaches store p newKey) : Agree store other p :=
  fun k hk => h.kept k (fun hc => hkey (hc ▸ hk)) (fun hc => hnew (hc ▸ hk))

theorem document_key (h : Moved store other key newKey) :
    document other key = .error (.profile (.notFound key)) := by
  rw [document, h.gone]

/-- A text says the same under its new key. -/
theorem document_newKey {doc : Document} (h : Moved store other key newKey)
    (hd : document store key = .ok doc) : document other newKey = .ok doc := by
  obtain ⟨text, htext, hparse⟩ := document_eq_ok.mp hd
  exact document_eq_ok.mpr
    ⟨text, h.there.trans htext, Document.parse_eq_ok.mpr (Document.parse_eq_ok.mp hparse)⟩

/-- A renamed profile comes to what it came to before, unless it led to its new name. -/
theorem resolves {res : Resolution} (h : Moved store other key newKey)
    (hres : Resolves store key res) (hnew : ¬ Reaches store key newKey) :
    Resolves other newKey res := by
  have hcircular := hres.not_circular
  cases hres with
  | @intro _ doc found hd hfound =>
      refine .intro (h.document_newKey hd) fun a ha => ?_
      have hext : Extends store key a := ⟨doc, hd, ha⟩
      -- An ancestor cannot lead back to the old name, which would make a circle.
      have hagree : Agree store other a :=
        h.agree (fun hback => hcircular (.head' hext hback)) fun hc => hnew (.head hext hc)
      exact resolveProfile_eq_ok.mp
        ((resolveProfile_congr hagree).trans (resolveProfile_eq_ok.mpr (hfound a ha)))

/-- A profile that led to the old name, and not to the new one, comes upon the old one, which is
missing. -/
theorem resolveAlong_eq {p : String} {res : Resolution} {path : List String}
    (h : Moved store other key newKey) (hres : Resolves store p res) (hne : p ≠ key)
    (hkey : Reaches store p key) (hnew : ¬ Reaches store p newKey)
    (hpath : ∀ k, Reaches store p k → k ∉ path) :
    resolveAlong other path p = .error (.profile (.notFound key)) := by
  induction hres generalizing path with
  | @intro p doc found hd hfound ih =>
      have hd' : document other p = .ok doc := by
        rw [document, h.kept p hne fun hc => hnew (hc ▸ .refl), ← document, hd]
      have hoff : ∀ a ∈ doc.ancestors, ∀ k, Reaches store a k → k ∉ path ++ [p] := fun a ha =>
        (Resolves.intro hd hfound).not_mem_path_of_extends hpath ⟨doc, hd, ha⟩
      have hnew' : ∀ a ∈ doc.ancestors, ¬ Reaches store a newKey := fun a ha hc =>
        hnew (.head ⟨doc, hd, ha⟩ hc)
      -- An ancestor that leads to the old name fails, and one that does not is resolved as before.
      have hfails : ∀ a ∈ doc.ancestors, Reaches store a key →
          resolveAlong other (path ++ [p]) a = .error (.profile (.notFound key)) := by
        intro a ha hak
        by_cases hsame : a = key
        · subst hsame
          exact resolveAlong_unread (hoff a ha a .refl) h.document_key
        · exact ih a ha hsame hak (hnew' a ha) (hoff a ha)
      have hall : ∀ a ∈ doc.ancestors,
          (∃ done, resolveAlong other (path ++ [p]) a = .ok done) ∨
            resolveAlong other (path ++ [p]) a = .error (.profile (.notFound key)) := by
        intro a ha
        by_cases hak : Reaches store a key
        · exact .inr (hfails a ha hak)
        · refine .inl ⟨found a, (resolveAlong_congr (h.agree hak (hnew' a ha))).trans ?_⟩
          exact (hfound a ha).resolveAlong_eq (hoff a ha)
      obtain ⟨a, hext, hak⟩ := (Relation.ReflTransGen.cases_head hkey).resolve_left hne
      have ha := hext.mem_ancestors hd
      rw [resolveAlong_read (hpath p .refl) hd',
        gather_eq_error_of_all hall ⟨a, ha, hfails a ha hak⟩]
      rfl

end Moved

/-- To rename a key is to move its text. -/
theorem ContentStore.moved_of_rename [ContentStore σ] {c : Contents} {text : String}
    (h : ContentStore.Holds store c) (hkey : c key = some text) (hne : newKey ≠ key) :
    ∃ renamed, KeyStore.rename store key newKey = .ok renamed ∧
      Moved store renamed key newKey := by
  obtain ⟨renamed, hrename, hholds⟩ := ContentStore.rename_eq h hkey hne
  refine ⟨renamed, hrename, ?_, ?_, fun k hk hknew => ?_⟩
  · simp [ContentStore.get?_eq hholds, hne.symm]
  · simp [ContentStore.get?_eq hholds, ContentStore.get?_eq h, hkey]
  · simp [ContentStore.get?_eq hholds, ContentStore.get?_eq h, hk, hknew]

/-- What renaming does to every profile. If a profile is resolved and does not lead to the name that
it is given, then it can be renamed, and under its new name it comes to what it came to before. A
profile other than it that was resolved, and leads to the old name but not to the new one, fails
with the old one as missing. A profile that leads to neither comes to what it came to before, be
that a resolution or a fault. -/
theorem resolveProfile_rename [ContentStore σ] {c : Contents} (hstore : ContentStore.Holds store c)
    (hne : key ≠ newKey) (res : Resolution) (hres : resolveProfile store key = .ok res)
    (hnew : ¬ Reaches store key newKey) :
    ∃ renamed, KeyStore.rename store key newKey = .ok renamed ∧
      resolveProfile renamed newKey = .ok res ∧
      (∀ p done, p ≠ key → resolveProfile store p = .ok done → Reaches store p key →
        ¬ Reaches store p newKey →
        resolveProfile renamed p = .error (.profile (.notFound key))) ∧
      ∀ p, ¬ Reaches store p key → ¬ Reaches store p newKey →
        resolveProfile renamed p = resolveProfile store p := by
  have hres := resolveProfile_eq_ok.mp hres
  obtain ⟨doc, hd⟩ := hres.exists_document
  obtain ⟨text, htext, _⟩ := document_eq_ok.mp hd
  rw [ContentStore.get?_eq hstore, Except.ok.injEq] at htext
  -- A profile that was resolved has a text, so there is something to rename.
  obtain ⟨renamed, hrename, hmoved⟩ := ContentStore.moved_of_rename hstore htext hne.symm
  refine ⟨renamed, hrename, resolveProfile_eq_ok.mpr (hmoved.resolves hres hnew), ?_, ?_⟩
  · intro p done hp hdone hkey hpnew
    rw [resolveProfile, (Resolver.ready_fresh renamed).resolve_eq]
    exact hmoved.resolveAlong_eq (resolveProfile_eq_ok.mp hdone) hp hkey hpnew
      fun _ _ => List.not_mem_nil
  · intro p hkey hpnew
    exact resolveProfile_congr (hmoved.agree hkey hpnew)

/-- In `layered` the profile `mid` takes the name of `left`, which is lost. The profile `right`
extends `mid`, and `base` is what both of them extend. -/
theorem resolveProfile_rename_layered :
    resolveProfile layered "mid" = .ok ⟨.ofList [("X", "x-base"), ("v", "base")], .empty⟩ ∧
    ¬ Reaches layered "mid" "left" ∧
    ∃ renamed, KeyStore.rename layered "mid" "left" = .ok renamed ∧
      resolveProfile renamed "left" = .ok ⟨.ofList [("X", "x-base"), ("v", "base")], .empty⟩ ∧
      resolveProfile renamed "right" = .error (.profile (.notFound "mid")) ∧
      resolveProfile renamed "base" = resolveProfile layered "base" := by
  have hmid : resolveProfile layered "mid"
      = .ok ⟨.ofList [("X", "x-base"), ("v", "base")], .empty⟩ :=
    resolveProfile_eq_of_within 2 (by decide +kernel)
  have hright : resolveProfile layered "right"
      = .ok ⟨.ofList [("X", "x-base"), ("v", "right")], .empty⟩ :=
    resolveProfile_eq_of_within 3 (by decide +kernel)
  have hdoc : document layered "right" = .ok ⟨["mid"], .ofList [("v", "right")], .empty⟩ :=
    eq_ok_of_toOption (by decide +kernel)
  have hclosed : ∀ keys ∈ [["right", "mid", "base"], ["mid", "base"], ["base"]], ∀ k ∈ keys,
      ∀ doc ∈ (document layered k).toOption, ∀ a ∈ doc.ancestors, a ∈ keys := by decide +kernel
  have hnot : ∀ keys ∈ [["right", "mid", "base"], ["mid", "base"], ["base"]], ∀ k ∈ keys,
      ∀ p ∉ keys, ¬ Reaches layered k p := fun keys hkeys k hk p hp hreach =>
    hp (mem_of_reaches (hclosed keys hkeys) hk hreach)
  have hleft : ¬ Reaches layered "mid" "left" := hnot ["mid", "base"] (by decide) _ (by decide) _
    (by decide)
  obtain ⟨renamed, hrename, hnew, hlost, hsame⟩ := resolveProfile_rename
    (show ContentStore.Holds layered layered.dict.get? from rfl) (by decide) _ hmid hleft
  refine ⟨hmid, hleft, renamed, hrename, hnew, ?_, ?_⟩
  · exact hlost "right" _ (by decide) hright (.single ⟨_, hdoc, List.mem_cons_self⟩)
      (hnot ["right", "mid", "base"] (by decide) _ (by decide) _ (by decide))
  · exact hsame "base" (hnot ["base"] (by decide) _ (by decide) _ (by decide))
      (hnot ["base"] (by decide) _ (by decide) _ (by decide))

end EnvProfiles
