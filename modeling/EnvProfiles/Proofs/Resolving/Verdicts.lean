import EnvProfiles.Command.Edit
import EnvProfiles.Proofs.Resolving.Solution
import EnvProfiles.Proofs.Stores.Steadiness
import EnvProfiles.Store.Memory

/-!
# Verdicts on Edited Texts

A text that was edited is stored even if it is no profile any more, and the
verdict says so. It is given by reading the text where it was edited, and a
resolver reads it again later, perhaps in the middle of another profile. The two
agree: the verdict is that the text is no profile exactly if resolving its key
fails for that very reason.

A resolver may fail for another one, since the text names ancestors. Whatever
goes wrong with these is reported of them, and a circle through the key is
reported as a circle, so no such fault is taken for one of the text. In the
other direction a text that is no profile names no ancestors, so nothing else
comes in between.

## Theorems

* `document_of_text`: A stored text is read where it is needed.
* `resolveProfile_unreadable_iff`: When the fault is that of the text itself.
* `fails_of_unreadable`: A text that is no profile fails whatever leads to it.
* `Command.keep_verdict`: What an edited text comes to.
-/

namespace EnvProfiles

variable {σ : Type} [KeyStore σ] {store : σ} {key text : String}

theorem document_of_text (h : KeyStore.get? store key = .ok (some text)) :
    document store key = (Document.parse key text).mapError .profile := by
  rw [document, h]

/-- A profile fails with the fault of its own text exactly if the text is at fault. -/
theorem resolveProfile_unreadable_iff (h : KeyStore.get? store key = .ok (some text)) :
    (∃ cause, resolveProfile store key = .error (.profile (.unreadable key cause))) ↔
      ∃ fault, Document.parse key text = .error fault := by
  have hplain : resolveProfile store key = resolveAlong store [] key :=
    (Resolver.ready_fresh store).resolve_eq key
  rw [hplain]
  constructor
  · rintro ⟨cause, hcause⟩
    -- The fault is real, and there is one text only that it can be about.
    obtain ⟨_, other, hother, hparse⟩ := foundFrom_of_resolveAlong .start hcause
    cases h.symm.trans hother
    exact ⟨_, hparse⟩
  · rintro ⟨fault, hfault⟩
    obtain ⟨cause, _, rfl⟩ := Document.parse_eq_error.mp hfault
    refine ⟨cause, resolveAlong_unread List.not_mem_nil ?_⟩
    rw [document_of_text h, hfault]
    rfl

/-- A text that is no profile makes every profile fail that leads to it. -/
theorem fails_of_unreadable {start : String} {fault : ProfileFault}
    (h : KeyStore.get? store key = .ok (some text))
    (hparse : Document.parse key text = .error fault)
    (hreaches : Reaches store start key) : ∃ fault, resolveProfile store start = .error fault := by
  cases hstart : resolveProfile store start with
  | error other => exact ⟨other, rfl⟩
  | ok res =>
      -- What a resolved profile leads to can be read.
      obtain ⟨done, hdone⟩ := (resolveProfile_eq_ok.mp hstart).of_reaches hreaches
      obtain ⟨doc, hdoc⟩ := hdone.exists_document
      rw [document_of_text h, hparse] at hdoc
      exact nomatch hdoc

namespace Command

variable {before after : String} {verdict : Verdict} {changed : σ}

/-- An edited text that is stored is told from one that is no profile. -/
theorem keep_eq_ok (hne : before ≠ after) :
    keep store key before after = .ok (verdict, changed) ↔
      KeyStore.set store key after = .ok changed ∧
        ((∃ doc, Document.parse key after = .ok doc) ∧ verdict = .saved ∨
          (∃ fault, Document.parse key after = .error fault) ∧ verdict = .savedUnreadable) := by
  rw [keep, if_neg hne]
  cases KeyStore.set store key after <;> cases Document.parse key after <;>
    simp [eq_comm, and_comm]

/-- An edited text is refused where the store refuses it. -/
theorem keep_eq_error (hne : before ≠ after) {fault : Fault} :
    keep store key before after = .error fault ↔
      ∃ cause, KeyStore.set store key after = .error cause ∧ .store cause = fault := by
  rw [keep, if_neg hne]
  cases KeyStore.set store key after <;> simp

variable [ContentStore σ] [SteadyStore σ] {c : Contents}

/-- A text that was not changed leaves the store alone. One that was changed is stored, unless the
store refuses it, and the verdict is that it is no profile exactly if resolving its key fails for
that reason. Then every profile fails that leads to it. -/
theorem keep_verdict (key before after : String) (hstore : Reads store c) :
    (before = after → keep store key before after = .ok (.unchanged, store)) ∧
    (before ≠ after →
      (∀ fault, keep store key before after = .error fault ↔
        ∃ cause, KeyStore.set store key after = .error cause ∧ .store cause = fault) ∧
      (ContentStore.Holds store c →
        ∃ verdict changed, keep store key before after = .ok (verdict, changed)) ∧
      ∀ verdict changed, keep store key before after = .ok (verdict, changed) →
        Reads changed (c.set key after) ∧ (verdict = .saved ∨ verdict = .savedUnreadable) ∧
        (verdict = .savedUnreadable ↔
          ∃ cause, resolveProfile changed key = .error (.profile (.unreadable key cause))) ∧
        (verdict = .savedUnreadable →
          ∀ start, Reaches changed start key →
            ∃ fault, resolveProfile changed start = .error fault)) := by
  refine ⟨fun hsame => if_pos hsame, fun hne => ⟨fun fault => keep_eq_error hne, fun hholds => ?_,
    fun verdict changed hkept => ?_⟩⟩
  · obtain ⟨changed, hset, _⟩ := ContentStore.set_eq hholds key after
    cases hparse : Document.parse key after with
    | ok doc => exact ⟨_, changed, (keep_eq_ok hne).mpr ⟨hset, .inl ⟨⟨doc, hparse⟩, rfl⟩⟩⟩
    | error fault => exact ⟨_, changed, (keep_eq_ok hne).mpr ⟨hset, .inr ⟨⟨fault, hparse⟩, rfl⟩⟩⟩
  · obtain ⟨hset, hverdict⟩ := (keep_eq_ok hne).mp hkept
    have hreads := ContentStore.reads (SteadyStore.holds_of_set hstore hset)
    -- The verdict is about the text alone, and this text is what is found under the key now.
    have htext : KeyStore.get? changed key = .ok (some after) := by
      simp [hreads.get?_eq]
    have hfault : verdict = .savedUnreadable ↔
        ∃ fault, Document.parse key after = .error fault := by
      rcases hverdict with ⟨⟨doc, hdoc⟩, rfl⟩ | ⟨hfault, rfl⟩
      · constructor
        · intro h
          cases h
        · rintro ⟨fault, hfault⟩
          cases hdoc.symm.trans hfault
      · exact ⟨fun _ => hfault, fun _ => rfl⟩
    refine ⟨hreads, hverdict.imp And.right And.right,
      hfault.trans (resolveProfile_unreadable_iff htext).symm, fun hunreadable start hstart => ?_⟩
    obtain ⟨fault, hparse⟩ := hfault.mp hunreadable
    exact fails_of_unreadable htext hparse hstart

/-- A profile, and another one that extends it. -/
def paired : MemoryStore := ⟨.ofList [("base", "env: {A: b}"), ("top", "extends: [base]")]⟩

/-- A sequence is no profile. It is stored all the same, and neither profile can be resolved. -/
theorem keep_paired :
    Reads paired paired.dict.get? ∧ "env: {A: b}" ≠ "[]" ∧
    let changed : MemoryStore := ⟨paired.dict.insert "base" "[]"⟩
    keep paired "base" "env: {A: b}" "[]" = .ok (.savedUnreadable, changed) ∧
      (∃ cause, resolveProfile changed "base" = .error (.profile (.unreadable "base" cause))) ∧
      ∃ fault, resolveProfile changed "top" = .error fault := by
  have hstore : Reads paired paired.dict.get? := ContentStore.reads rfl
  have hkept : keep paired "base" "env: {A: b}" "[]" =
      .ok (.savedUnreadable, ⟨paired.dict.insert "base" "[]"⟩) :=
    eq_ok_of_toOption (by decide +kernel)
  have htop : document (⟨paired.dict.insert "base" "[]"⟩ : MemoryStore) "top" =
      .ok ⟨["base"], .empty, .empty⟩ :=
    eq_ok_of_toOption (by decide +kernel)
  obtain ⟨_, hchanged⟩ := keep_verdict "base" "env: {A: b}" "[]" hstore
  obtain ⟨_, _, hverdict⟩ := hchanged (by decide)
  obtain ⟨_, _, hunreadable, hfails⟩ := hverdict _ _ hkept
  exact ⟨hstore, by decide, hkept, hunreadable.mp rfl,
    hfails rfl "top" (.single ⟨_, htop, List.mem_cons_self⟩)⟩

end Command

end EnvProfiles
