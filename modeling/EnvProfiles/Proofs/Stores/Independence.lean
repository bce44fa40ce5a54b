import EnvProfiles.Proofs.Stores.Contents

/-!
# Independent Changes

A change reads and writes the texts of the keys it names, and no others. So it
answers alike wherever these texts are alike, and if two changes name no key in
common, neither notices the other: done in either order they are answered as
each would be alone, and lead to the same contents.

That holds also of what one would expect to get in the way. A key that is
renamed takes the place of the text under the new key, but the new key is one
that the change names.

## Theorems

* `Contents.Answers.other`: Other keys are left alone.
* `Contents.Answers.carry`: Other keys do not matter.
* `Contents.Answers.diamond`: Changes that name no key in common commute.
-/

namespace EnvProfiles

namespace Contents

variable {c c' d : Contents} {change : Change} {response : Response} {key : String}

/-- A change leaves the texts of the keys alone that it does not name. -/
theorem Answers.other (h : c.Answers (.change change) response c') (hkey : key ∉ change.keys) :
    c' key = c key := by
  cases h with
  | set k text => exact if_neg (List.ne_of_not_mem_cons hkey)
  | delete htext => exact if_neg (List.ne_of_not_mem_cons hkey)
  | deleteAbsent => rfl
  | renameAbsent => rfl
  | renameSame => rfl
  | rename htext hne =>
      simp only [Change.keys, List.mem_cons, List.not_mem_nil, or_false, not_or] at hkey
      simp [hkey.1, hkey.2]

/-- What a change comes to is a matter of the texts of the keys that it names: where these are the
same, it is answered alike, and they are the same afterwards. -/
theorem Answers.carry (h : c.Answers (.change change) response c')
    (hsame : ∀ k ∈ change.keys, d k = c k) :
    ∃ d', d.Answers (.change change) response d' ∧ ∀ k ∈ change.keys, d' k = c' k := by
  cases h with
  | set k text =>
      refine ⟨_, .set k text, fun k' hk' => ?_⟩
      simp [hsame k' hk']
  | delete htext =>
      have hd := (hsame _ List.mem_cons_self).trans htext
      refine ⟨_, .delete hd, fun k' hk' => ?_⟩
      simp [hsame k' hk']
  -- Where the key is absent, both contents stay as they are.
  | deleteAbsent habsent =>
      exact ⟨d, .deleteAbsent ((hsame _ List.mem_cons_self).trans habsent), hsame⟩
  | renameAbsent newKey habsent =>
      exact ⟨d, .renameAbsent newKey ((hsame _ List.mem_cons_self).trans habsent), hsame⟩
  | renameSame htext =>
      exact ⟨d, .renameSame ((hsame _ List.mem_cons_self).trans htext), hsame⟩
  | rename htext hne =>
      have hd := (hsame _ List.mem_cons_self).trans htext
      refine ⟨_, .rename hd hne, fun k' hk' => ?_⟩
      simp [hsame k' hk']

/-- Two changes that name no key in common can be done in either order. Each is answered as it is
when it comes first, and both orders lead to the same contents. -/
theorem Answers.diamond {a b : Change} {ca cb : Contents} {ra rb : Response}
    (hdisjoint : a.keys.Disjoint b.keys) (ha : c.Answers (.change a) ra ca)
    (hb : c.Answers (.change b) rb cb) :
    ∃ both, ca.Answers (.change b) rb both ∧ cb.Answers (.change a) ra both := by
  obtain ⟨cab, hab, hsameb⟩ := hb.carry fun k hk => ha.other fun hc => hdisjoint hc hk
  obtain ⟨cba, hba, hsamea⟩ := ha.carry fun k hk => hb.other fun hc => hdisjoint hk hc
  -- A key belongs to one change or to none, and the other change leaves its text alone.
  have hboth : cab = cba := by
    funext k
    by_cases hka : k ∈ a.keys
    · rw [hab.other (hdisjoint hka), hsamea k hka]
    · rw [hba.other hka]
      by_cases hkb : k ∈ b.keys
      · exact hsameb k hkb
      · rw [hab.other hkb, ha.other hka, hb.other hkb]
  exact ⟨cab, hab, hboth ▸ hba⟩

end Contents

end EnvProfiles
