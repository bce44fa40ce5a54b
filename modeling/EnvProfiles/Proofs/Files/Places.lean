import EnvProfiles.Files.FileSystem
import Mathlib.Data.List.Basic

/-!
# Places of One File

What is found where after something has been put at a place or dropped from it,
if a file can have several places. What is put at one place of a file is found at
all its places, and nothing else is touched; what is dropped from a place is
still found at the others. Neither makes two files one, nor one file two.

A place counts as that of the first node that has it. So two places are names of
one file exactly if each of them is among the places of the other, whatever else
is in the list of nodes.

## Main definitions

* `FileSystem.Alone`: No other place is a name of the same file.

## Theorems

* `FileSystem.sameFile_iff`: When two places are names of one file.
* `FileSystem.entry?_put`, `FileSystem.entry?_drop`: What is found afterwards.
* `FileSystem.sameFile_put`, `FileSystem.sameFile_drop`: Which places are names
  of one file afterwards.
-/

namespace EnvProfiles

/-! ### Searches in a list -/

section Search

variable {α : Type} {p q : α → Bool} {l : List α} {a b : α}

/-- Two searches come to the same if each would take what the other one finds. -/
theorem find?_unique (ha : l.find? p = some a) (hb : l.find? q = some b) (hq : q a = true)
    (hp : p b = true) : a = b := by
  induction l with
  | nil => exact nomatch ha
  | cons x l ih =>
      rw [List.find?_cons] at ha hb
      split at ha
      next hx =>
        cases ha
        rw [hq] at hb
        exact Option.some.inj hb
      next hx =>
        split at hb
        next hx' =>
          cases hb
          exact absurd hp (Bool.eq_false_iff.mp hx)
        next => exact ih ha hb

/-- A search does not miss what another one has found. -/
theorem find?_eraseP (h : ∀ a, l.find? p = some a → l.find? q ≠ some a) :
    (l.eraseP p).find? q = l.find? q := by
  induction l with
  | nil => rfl
  | cons x l ih =>
      by_cases hp : p x = true
      · rw [List.eraseP_cons_of_pos hp, List.find?_cons]
        split
        next hq =>
          -- The first element is the one that is taken out, and it is not the one that is sought.
          exact absurd (List.find?_cons_of_pos hq) (h x (List.find?_cons_of_pos hp))
        next => rfl
      · rw [List.eraseP_cons_of_neg hp, List.find?_cons, List.find?_cons]
        split
        next => rfl
        next hq =>
          refine ih fun a ha => ?_
          have hother := h a (by rwa [List.find?_cons_of_neg hp])
          rwa [List.find?_cons_of_neg (Bool.eq_false_iff.mp hq)] at hother

end Search

namespace FileSystem

variable {fs : FileSystem} {place other a b : Location} {entry : Entry}
  {node : List Location × Entry}

/-! ### Names of one file -/

theorem node?_of_ne_nil (h : place ≠ []) :
    fs.node? place = fs.nodes.find? fun node => node.1.contains place := by
  rw [node?, if_neg (h ∘ List.isEmpty_iff.mp)]

theorem entry?_of_ne_nil (h : place ≠ []) : fs.entry? place = (fs.node? place).map (·.2) := by
  rw [ entry?, if_neg (h ∘ List.isEmpty_iff.mp)]

theorem mem_of_node? (h : fs.node? place = some node) : place ∈ node.1 := by
  unfold node? at h
  split at h
  next => exact nomatch h
  next =>
    have hfound := List.find?_some h
    exact List.contains_iff_mem.mp hfound

theorem mem_places (fs : FileSystem) (place : Location) : place ∈ fs.places place := by
  unfold places
  split
  next node hnode => exact mem_of_node? hnode
  next => exact List.mem_singleton_self place

theorem places_eq_of_node? (h : fs.node? place = some node) : fs.places place = node.1 := by
  rw [places, h]

theorem places_of_absent (h : fs.node? place = none) : fs.places place = [place] := by
  rw [places, h]

@[simp] theorem sameFile_refl (fs : FileSystem) (place : Location) :
    fs.sameFile place place = true :=
  beq_self_eq_true _

theorem places_eq_of_sameFile (h : fs.sameFile a b = true) : fs.places a = fs.places b :=
  beq_iff_eq.mp h

theorem sameFile_comm (a b : Location) : fs.sameFile a b = fs.sameFile b a :=
  Bool.eq_iff_iff.mpr (beq_iff_eq.trans (eq_comm.trans beq_iff_eq.symm))

theorem node?_eq_of_mem (ha : a ∈ fs.places b) (hb : b ∈ fs.places a) :
    fs.node? a = fs.node? b := by
  -- A place where nothing is found is alone with itself.
  have hone : ∀ {c d}, fs.node? c = none → c ∈ fs.places d → d ∈ fs.places c →
      fs.node? c = fs.node? d := by
    intro c d hc _ hd
    rw [places_of_absent hc] at hd
    rw [List.mem_singleton.mp hd]
  cases hna : fs.node? a with
  | none => exact hna ▸ hone hna ha hb
  | some m =>
      cases hnb : fs.node? b with
      | none => exact (hnb ▸ hna ▸ hone hnb hb ha).symm
      | some n =>
          rw [places_eq_of_node? hna] at hb
          rw [places_eq_of_node? hnb] at ha
          have hne : ∀ {c k}, fs.node? c = some k → c ≠ [] := by
            rintro c k hk rfl
            exact nomatch hk
          rw [node?_of_ne_nil (hne hna)] at hna
          rw [node?_of_ne_nil (hne hnb)] at hnb
          exact congrArg some (find?_unique hna hnb (List.contains_iff_mem.mpr hb)
            (List.contains_iff_mem.mpr ha))

/-- Two places are names of one file if each is among the places of the other. -/
theorem sameFile_iff : fs.sameFile a b = true ↔ a ∈ fs.places b ∧ b ∈ fs.places a := by
  constructor
  · intro h
    have hplaces := places_eq_of_sameFile h
    exact ⟨hplaces ▸ fs.mem_places a, hplaces ▸ fs.mem_places b⟩
  · rintro ⟨ha, hb⟩
    have hnode := node?_eq_of_mem ha hb
    refine beq_iff_eq.mpr ?_
    cases hn : fs.node? a with
    | none =>
        rw [places_of_absent hn] at hb
        rw [List.mem_singleton.mp hb]
    | some node => rw [places_eq_of_node? hn, places_eq_of_node? (hnode.symm.trans hn)]

/-- What is found of a file is found at all its places. -/
theorem entry?_eq_of_sameFile (h : fs.sameFile a b = true) : fs.entry? a = fs.entry? b := by
  obtain ⟨ha, hb⟩ := sameFile_iff.mp h
  have hnode := node?_eq_of_mem ha hb
  by_cases hnil : a = []
  · subst hnil
    rw [List.mem_singleton.mp hb]
  · by_cases hnil' : b = []
    · subst hnil'
      exact absurd (List.mem_singleton.mp ha) hnil
    · rw [entry?_of_ne_nil hnil, entry?_of_ne_nil hnil', hnode]

theorem not_sameFile_of_entry?_ne (h : fs.entry? a ≠ fs.entry? b) : ¬ fs.sameFile a b = true :=
  fun hc => h (entry?_eq_of_sameFile hc)

/-- Where nothing is found, there is no file with another name. -/
theorem sameFile_of_absent (h : fs.entry? place = none) :
    fs.sameFile place other = true ↔ other = place := by
  constructor
  · intro hsame
    have hnode : fs.node? place = none := by
      by_cases hnil : place = []
      · rw [hnil]
        rfl
      · rw [entry?_of_ne_nil hnil] at h
        exact Option.map_eq_none_iff.mp h
    have hmem := (sameFile_iff.mp hsame).2
    rw [places_of_absent hnode] at hmem
    exact List.mem_singleton.mp hmem
  · rintro rfl
    exact sameFile_refl fs other

theorem sameFile_nil : fs.sameFile [] other = true ↔ other = [] := by
  constructor
  · exact fun h => List.mem_singleton.mp (sameFile_iff.mp h).2
  · rintro rfl
    exact sameFile_refl fs []

/-! ### What is put -/

/-- The places under which something is put. -/
theorem mem_filter_places :
    other ∈ (fs.places place).filter (fs.sameFile place) ↔ fs.sameFile place other = true := by
  rw [List.mem_filter]
  exact and_iff_right_of_imp fun h => (sameFile_iff.mp h).2

theorem node?_put (hplace : place ≠ []) (entry : Entry) (other : Location) :
    (fs.put place entry).node? other =
      if fs.sameFile place other then some ((fs.places place).filter (fs.sameFile place), entry)
      else fs.node? other := by
  by_cases hnil : other = []
  · subst hnil
    rw [if_neg fun hc => hplace (sameFile_nil.mp (sameFile_comm place [] ▸ hc))]
    rfl
  · rw [node?_of_ne_nil hnil, node?_of_ne_nil hnil, put, List.find?_cons]
    by_cases hsame : fs.sameFile place other = true
    · rw [List.contains_iff_mem.mpr (mem_filter_places.mpr hsame), if_pos hsame]
    · rw [
        Bool.eq_false_iff.mpr fun hc => hsame (mem_filter_places.mp (List.contains_iff_mem.mp hc)),
        if_neg hsame]
      -- The file at the place is found first there, and not at the other place.
      refine find?_eraseP fun node hnode hc => hsame ?_
      rw [← node?_of_ne_nil hplace] at hnode
      rw [← node?_of_ne_nil hnil] at hc
      exact beq_iff_eq.mpr ((places_eq_of_node? hnode).trans (places_eq_of_node? hc).symm)

/-- What is put at a place is found at all places of the file, and everything else where it was. -/
@[simp] theorem entry?_put (hplace : place ≠ []) (entry : Entry) (other : Location) :
    entry? (fs.put place entry) other =
      if fs.sameFile place other then some entry else fs.entry? other := by
  by_cases hnil : other = []
  · subst hnil
    rw [if_neg fun hc => hplace (sameFile_nil.mp (sameFile_comm place [] ▸ hc))]
    rfl
  · rw [entry?_of_ne_nil hnil, entry?_of_ne_nil hnil, node?_put hplace]
    split <;> rfl

/-- What is put where nothing was has no other place. -/
theorem entry?_put_absent (h : fs.entry? place = none) (entry : Entry) (other : Location) :
    entry? (fs.put place entry) other = if other = place then some entry else fs.entry? other := by
  have hplace : place ≠ [] := by
    rintro rfl
    exact nomatch h
  rw [entry?_put hplace]
  exact if_congr (sameFile_of_absent h) rfl rfl

theorem places_put (hplace : place ≠ []) (entry : Entry) (other : Location) :
    (fs.put place entry).places other =
      if fs.sameFile place other then (fs.places place).filter (fs.sameFile place)
      else fs.places other := by
  rw [places, node?_put hplace]
  by_cases hsame : fs.sameFile place other = true
  · rw [if_pos hsame, if_pos hsame]
  · rw [if_neg hsame, if_neg hsame]
    rfl

/-- To put something at a place makes neither two files one nor one file two. -/
@[simp] theorem sameFile_put (hplace : place ≠ []) (entry : Entry) (a b : Location) :
    (fs.put place entry).sameFile a b = fs.sameFile a b := by
  -- All names of the file that is put have the same other names.
  have htrans : ∀ {c d}, fs.sameFile place c = true →
      (fs.sameFile c d = true ↔ fs.sameFile place d = true) := by
    intro c d hc
    rw [sameFile, sameFile, places_eq_of_sameFile hc]
  rw [Bool.eq_iff_iff, sameFile_iff, places_put hplace, places_put hplace]
  by_cases ha : fs.sameFile place a = true
  · by_cases hb : fs.sameFile place b = true
    · rw [if_pos ha, if_pos hb, mem_filter_places, mem_filter_places, htrans ha]
      exact ⟨fun h => h.2, fun h => ⟨ha, h⟩⟩
    · rw [if_pos ha, if_neg hb, mem_filter_places, htrans ha]
      exact ⟨fun h => h.2, fun h => absurd h hb⟩
  · by_cases hb : fs.sameFile place b = true
    · rw [if_neg ha, if_pos hb, mem_filter_places, sameFile_comm a b, htrans hb]
      exact ⟨fun h => h.1, fun h => absurd h ha⟩
    · rw [if_neg ha, if_neg hb, sameFile_iff]

/-! ### What is dropped -/

theorem node?_drop (fs : FileSystem) (place other : Location) :
    (fs.drop place).node? other = if other = place then none
      else (fs.node? other).map fun node => (node.1.filter (· != place), node.2) := by
  by_cases hnil : other = []
  · subst hnil
    split <;> rfl
  · -- A node that has the other place is not left without any.
    have hleft : ∀ nodes : List (List Location × Entry),
        (nodes.filter fun node => !node.1.isEmpty).find? (fun node => node.1.contains other) =
          nodes.find? fun node => node.1.contains other := by
      intro nodes
      rw [List.find?_filter]
      congr 1
      funext node
      rw [Bool.eq_iff_iff, decide_eq_true_iff]
      refine and_iff_right_of_imp fun h => ?_
      have hne := List.ne_nil_of_mem (List.contains_iff_mem.mp h)
      rwa [Bool.not_eq_true', List.isEmpty_eq_false_iff]
    have hfind : (fs.drop place).node? other =
        (fs.nodes.find? fun node => (node.1.filter (· != place)).contains other).map
          fun node => (node.1.filter (· != place), node.2) := by
      rw [node?_of_ne_nil hnil, drop, hleft, List.find?_map]
      rfl
    rw [hfind]
    split
    next heq =>
      subst heq
      rw [Option.map_eq_none_iff, List.find?_eq_none]
      -- The place has been taken from every node.
      intro node _ hc
      exact bne_iff_ne.mp (List.mem_filter.mp (List.contains_iff_mem.mp hc)).2 rfl
    next hne =>
      rw [node?_of_ne_nil hnil]
      congr 2
      funext node
      rw [Bool.eq_iff_iff, List.contains_iff_mem, List.contains_iff_mem, List.mem_filter]
      exact and_iff_left (bne_iff_ne.mpr hne)

/-- What is dropped from a place is gone there, and everything else is found where it was. -/
@[simp] theorem entry?_drop (hplace : place ≠ []) (other : Location) :
    entry? (fs.drop place) other = if other = place then none else fs.entry? other := by
  by_cases hnil : other = []
  · subst hnil
    exact (if_neg hplace.symm).symm
  · rw [entry?_of_ne_nil hnil, entry?_of_ne_nil hnil, node?_drop]
    split
    · rfl
    · rw [Option.map_map]
      rfl

theorem places_drop (hne : other ≠ place) :
    (fs.drop place).places other = (fs.places other).filter (· != place) := by
  rw [places, places, node?_drop, if_neg hne]
  -- Where nothing is found there is the one place, which is not dropped.
  cases fs.node? other with
  | none => exact (List.filter_eq_self.mpr fun a ha => by
      rw [List.mem_singleton.mp ha]
      exact bne_iff_ne.mpr hne).symm
  | some node => rfl

/-- To drop what is at a place makes neither two other files one nor one of them two. -/
@[simp] theorem sameFile_drop (ha : a ≠ place) (hb : b ≠ place) :
    (fs.drop place).sameFile a b = fs.sameFile a b := by
  rw [Bool.eq_iff_iff, sameFile_iff, sameFile_iff, places_drop ha, places_drop hb, List.mem_filter,
    List.mem_filter]
  exact and_congr (and_iff_left (bne_iff_ne.mpr ha)) (and_iff_left (bne_iff_ne.mpr hb))

/-- Of two places that are names of one file when something has been dropped, neither was where it
was dropped. -/
theorem sameFile_of_drop (hplace : place ≠ []) (h : (fs.drop place).sameFile a b = true) :
    a = b ∨ fs.sameFile a b = true := by
  have habsent : entry? (fs.drop place) place = none := by rw [entry?_drop hplace, if_pos rfl]
  by_cases ha : a = place
  · rw [ha, sameFile_of_absent habsent] at h
    exact .inl (ha.trans h.symm)
  · by_cases hb : b = place
    · rw [hb, sameFile_comm, sameFile_of_absent habsent] at h
      exact .inl (h.trans hb.symm)
    · exact .inr (sameFile_drop ha hb ▸ h)

/-! ### Places alone -/

/-- No other place is a name of the file at a place. -/
def Alone (fs : FileSystem) (place : Location) : Prop :=
  ∀ other, fs.sameFile place other = true → other = place

theorem Alone.of_absent (h : fs.entry? place = none) : fs.Alone place :=
  fun _ => (sameFile_of_absent h).mp

end FileSystem

end EnvProfiles
