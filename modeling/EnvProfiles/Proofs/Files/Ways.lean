import EnvProfiles.Files.Terrain
import Mathlib.Data.List.Induction

/-!
# Ways and What They Meet

Where names lead, and what of it stays when more is found. The bound on the
links that a path may lead through makes ways hard to take apart: what follows
the first half of a path depends on how many links that half led through. It
does not, as long as the second half meets no link. So names are taken off the
end of a path one by one, and only where that leads through no link.

What is found may change. Whatever a path led to, it leads to afterwards, as long
as the directories and links on it stay what they are, for these decide a way.
That more is found makes no difference to it, nor what becomes of files.

## Main definitions

* `Terrain.NoLink`: A place where no link is found.
* `Terrain.Sound`: Whatever is found is in a directory.
* `Terrain.Keeps`: Directories and links stay what they are.
* `Terrain.Grows`: More is found, and what was found is still found.

## Theorems

* `Terrain.follow_concat_iff`: One more name at the end of a path.
* `Terrain.follow_above`: A path leads to a place in a directory.
* `Terrain.follow_below`: Names below a place lead to places below it.
* `Terrain.size_of_follow`: Names that lead somewhere are not too long.
* `Terrain.along_eq_ok_iff`: The system takes the path, and its names lead there.
* `Terrain.Keeps.along`: A path leads where it led before.
-/

namespace EnvProfiles

namespace Terrain

/-- What is found at a place, if anything, is no link. -/
def NoLink (t : Terrain) (place : Location) : Prop := ∀ target, t.found place ≠ .link target

/-- Whatever is found is in a directory, and the root is one. -/
structure Sound (t : Terrain) : Prop where
  root : t.found [] = .directory
  above : ∀ {place}, t.found place ≠ .absent → t.found place.dropLast = .directory

section Ways

variable {t : Terrain} {place next start : Location} {name target : String}
  {names more rest : List String} {last : Bool} {n : Nat} {refusal : Refusal}

theorem noLink_of_directory (h : t.found place = .directory) : t.NoLink place :=
  fun _ hlink => nomatch h.symm.trans hlink

theorem noLink_or_link (t : Terrain) (place : Location) :
    t.NoLink place ∨ ∃ target, t.found place = .link target := by
  cases h : t.found place with
  | link target => exact .inr ⟨target, rfl⟩
  | absent | directory | other => exact .inl fun _ hlink => nomatch h.symm.trans hlink

/-! ### One name -/

/-- A name leads out of a directory: to the directory itself, to the one above, or into it. -/
theorem step_cases (h : t.step place name = .ok next) :
    t.found place = .directory ∧
      (name = "." ∧ next = place ∨ name = ".." ∧ next = place.dropLast ∨
        name ≠ "." ∧ name ≠ ".." ∧ next = place ++ [name]) := by
  unfold step at h
  split at h
  next => exact nomatch h
  next hplace =>
    refine ⟨hplace, ?_⟩
    split at h
    next hdot => exact .inl ⟨beq_iff_eq.mp hdot, (Except.ok.inj h).symm⟩
    next hdot =>
      split at h
      next hdots => exact .inr (.inl ⟨beq_iff_eq.mp hdots, (Except.ok.inj h).symm⟩)
      next hdots =>
        split at h
        next => exact nomatch h
        next =>
          exact .inr (.inr ⟨fun hc => hdot (beq_iff_eq.mpr hc),
            fun hc => hdots (beq_iff_eq.mpr hc), (Except.ok.inj h).symm⟩)
  next => exact nomatch h

/-- A name that is no dots leads into the directory. -/
theorem step_eq_append (h : t.step place name = .ok next) (hdot : name ≠ ".")
    (hdots : name ≠ "..") : next = place ++ [name] := by
  obtain ⟨_, ⟨hc, _⟩ | ⟨hc, _⟩ | ⟨_, _, hnext⟩⟩ := step_cases h
  · exact absurd hc hdot
  · exact absurd hc hdots
  · exact hnext

theorem step_dot_iff :
    t.step place "." = .ok next ↔ t.found place = .directory ∧ next = place := by
  constructor
  · intro h
    obtain ⟨hplace, ⟨_, hnext⟩ | ⟨hc, _⟩ | ⟨hc, _⟩⟩ := step_cases h
    · exact ⟨hplace, hnext⟩
    · exact absurd hc (by decide)
    · exact absurd rfl hc
  · rintro ⟨hplace, rfl⟩
    rw [step, hplace]
    rfl

theorem Sound.above_step (hs : t.Sound) (h : t.step place name = .ok next) :
    t.found next.dropLast = .directory := by
  obtain ⟨hplace, hnext⟩ := step_cases h
  have hpresent : t.found place ≠ .absent := fun hc => nomatch hplace.symm.trans hc
  -- A directory is in a directory, so the place is fine wherever the name leads.
  have habove := hs.above hpresent
  obtain ⟨_, rfl⟩ | ⟨_, rfl⟩ | ⟨_, _, rfl⟩ := hnext
  · exact habove
  · exact hs.above fun hc => nomatch habove.symm.trans hc
  · rwa [List.dropLast_concat]

/-! ### Names up to the first link -/

theorem advance_cons_of_error (h : t.step place name = .error refusal) :
    t.advance place (name :: names) = .error refusal := by
  rw [advance, h]

theorem advance_cons_of_link (h : t.step place name = .ok next)
    (hlink : t.found next = .link target) :
    t.advance place (name :: names) = .ok (next, names) := by
  rw [advance, h]
  simp only [hlink]

theorem advance_cons_of_noLink (h : t.step place name = .ok next) (hnext : t.NoLink next) :
    t.advance place (name :: names) = t.advance next names := by
  rw [advance, h]
  dsimp only
  split
  next hlink => exact absurd hlink (hnext _)
  next => rfl

/-- Names are followed one after the other, up to a link. -/
theorem advance_cons_cases (h : t.advance place (name :: names) = .ok (next, rest)) :
    ∃ via, t.step place name = .ok via ∧
      (t.NoLink via ∧ t.advance via names = .ok (next, rest) ∨
        (∃ target, t.found via = .link target) ∧ via = next ∧ names = rest) := by
  cases hstep : t.step place name with
  | error refusal =>
      rw [advance_cons_of_error hstep] at h
      exact nomatch h
  | ok via =>
      rcases noLink_or_link t via with hvia | ⟨target, hlink⟩
      · rw [advance_cons_of_noLink hstep hvia] at h
        exact ⟨via, rfl, .inl ⟨hvia, h⟩⟩
      · rw [advance_cons_of_link hstep hlink] at h
        have hreached := Prod.mk.inj (Except.ok.inj h)
        exact ⟨via, rfl, .inr ⟨⟨target, hlink⟩, hreached⟩⟩

/-- More names are left if there is a link before them, and are followed from where the names before
them lead otherwise. -/
theorem advance_append (hplace : t.NoLink place) (more : List String) :
    t.advance place (names ++ more) =
      (t.advance place names).bind fun (next, rest) =>
        match t.found next with
        | .link _ => .ok (next, rest ++ more)
        | _ => t.advance next more := by
  induction names generalizing place with
  | nil =>
      -- No names are left at the start, which is no link.
      show t.advance place more = match t.found place with
        | .link _ => .ok (place, more)
        | _ => t.advance place more
      split
      next hlink => exact absurd hlink (hplace _)
      next => rfl
  | cons name names ih =>
      rw [List.cons_append]
      cases hstep : t.step place name with
      | error refusal => rw [advance_cons_of_error hstep, advance_cons_of_error hstep]; rfl
      | ok next =>
          rcases noLink_or_link t next with hnext | ⟨target, hlink⟩
          · rw [advance_cons_of_noLink hstep hnext, advance_cons_of_noLink hstep hnext, ih hnext]
          · -- Both ways stop at the link, and the longer one has the other names left as well.
            rw [advance_cons_of_link hstep hlink, advance_cons_of_link hstep hlink]
            show Except.ok (next, names ++ more) = match t.found next with
              | .link _ => Except.ok (next, names ++ more)
              | _ => t.advance next more
            rw [hlink]

theorem advance_append_of_error (hplace : t.NoLink place)
    (h : t.advance place names = .error refusal) (more : List String) :
    t.advance place (names ++ more) = .error refusal := by
  rw [advance_append hplace, h]
  rfl

theorem advance_append_of_link (hplace : t.NoLink place)
    (h : t.advance place names = .ok (next, rest)) (hlink : t.found next = .link target)
    (more : List String) : t.advance place (names ++ more) = .ok (next, rest ++ more) := by
  rw [advance_append hplace, h, Except.bind]
  simp only [hlink]

theorem advance_append_of_noLink (hplace : t.NoLink place)
    (h : t.advance place names = .ok (next, rest)) (hnext : t.NoLink next) (more : List String) :
    t.advance place (names ++ more) = t.advance next more := by
  rw [advance_append hplace, h, Except.bind]
  dsimp only
  split
  next hlink => exact absurd hlink (hnext _)
  next => rfl

theorem Sound.above_advance (hs : t.Sound) (hplace : t.found place.dropLast = .directory)
    (h : t.advance place names = .ok (next, rest)) : t.found next.dropLast = .directory := by
  induction names generalizing place with
  | nil =>
      cases h
      exact hplace
  | cons name names ih =>
      obtain ⟨via, hstep, ⟨_, hadvance⟩ | ⟨_, rfl, _⟩⟩ := advance_cons_cases h
      · exact ih (hs.above_step hstep) hadvance
      · exact hs.above_step hstep

/-! ### Names and links -/

theorem follow_of_error (h : t.advance start names = .error refusal) :
    t.follow last (n + 1) start names = .error refusal := by
  rw [follow, h]

theorem follow_of_noLink (h : t.advance start names = .ok (place, rest)) (hplace : t.NoLink place) :
    t.follow last (n + 1) start names = .ok place := by
  rw [follow, h]
  dsimp only
  split
  next hlink => exact absurd hlink (hplace _)
  next => rfl

/-- Where the way goes on behind a link. -/
def behind (place : Location) (target : String) : Location :=
  if Path.isAbsolute target then [] else place.dropLast

theorem follow_of_link (h : t.advance start names = .ok (place, rest))
    (hlink : t.found place = .link target) (hrest : (rest.isEmpty && !last) = false) :
    t.follow last (n + 1) start names =
      t.follow last n (behind place target) (Terrain.names target ++ rest) := by
  rw [follow, h]
  simp only [hlink, hrest, Bool.false_eq_true, if_false]
  rfl

/-- A link that the way ends at, and that is not followed. -/
theorem follow_of_last_link (h : t.advance start names = .ok (place, rest))
    (hlink : t.found place = .link target) (hrest : (rest.isEmpty && !last) = true) :
    t.follow last (n + 1) start names = .ok place := by
  rw [follow, h]
  simp only [hlink, hrest, if_true]

/-- A link is in a directory, so the way goes on from a directory behind it. -/
theorem Sound.behind (hs : t.Sound) (hlink : t.found place = .link target) :
    t.found (Terrain.behind place target) = .directory := by
  unfold Terrain.behind
  split
  · exact hs.root
  · exact hs.above fun hc => nomatch hlink.symm.trans hc

/-- Names lead to the first place on the way that is no link, or to a link at their end that is not
to be followed. -/
theorem follow_cases (h : t.follow last (n + 1) start names = .ok place) :
    ∃ next rest, t.advance start names = .ok (next, rest) ∧
      (t.NoLink next ∧ next = place ∨
        ∃ target, t.found next = .link target ∧
          ((rest.isEmpty && !last) = true ∧ next = place ∨
            (rest.isEmpty && !last) = false ∧
              t.follow last n (Terrain.behind next target) (Terrain.names target ++ rest) =
                .ok place)) := by
  cases hadvance : t.advance start names with
  | error refusal =>
      rw [follow_of_error hadvance] at h
      exact nomatch h
  | ok reached =>
      obtain ⟨next, rest⟩ := reached
      refine ⟨next, rest, rfl, ?_⟩
      rcases noLink_or_link t next with hnext | ⟨target, hlink⟩
      · rw [follow_of_noLink hadvance hnext] at h
        exact .inl ⟨hnext, Except.ok.inj h⟩
      · refine .inr ⟨target, hlink, ?_⟩
        -- A link is followed unless it is the last name and is not to be.
        cases hrest : rest.isEmpty && !last with
        | true =>
            rw [follow_of_last_link hadvance hlink hrest] at h
            exact .inl ⟨rfl, Except.ok.inj h⟩
        | false =>
            rw [follow_of_link hadvance hlink hrest] at h
            exact .inr ⟨rfl, h⟩

/-- One more name at the end of a path, if that leads to no link. -/
theorem follow_concat (hs : t.Sound) (hstart : t.found start = .directory)
    (h : ∀ place next, t.follow true n start names = .ok place → t.step place name = .ok next →
      t.NoLink next) :
    t.follow last n start (names ++ [name]) =
      (t.follow true n start names).bind fun place => t.step place name := by
  induction n generalizing start names with
  | zero => rfl
  | succ n ih =>
      have hplain := noLink_of_directory hstart
      cases hadvance : t.advance start names with
      | error refusal =>
          rw [follow_of_error hadvance,
            follow_of_error (advance_append_of_error hplain hadvance [name])]
          rfl
      | ok reached =>
          obtain ⟨place, rest⟩ := reached
          rcases noLink_or_link t place with hplace | ⟨target, hlink⟩
          · have hfollow : t.follow true (n + 1) start names = .ok place :=
              follow_of_noLink hadvance hplace
            rw [hfollow]
            show _ = t.step place name
            -- There is no link on the way, so the name is taken from where the others lead.
            have hadvance' := advance_append_of_noLink hplain hadvance hplace [name]
            cases hstep : t.step place name with
            | error refusal => exact follow_of_error (hadvance'.trans (advance_cons_of_error hstep))
            | ok next =>
                have hnext := h place next hfollow hstep
                exact follow_of_noLink (hadvance'.trans (advance_cons_of_noLink hstep hnext)) hnext
          · -- The name is left at the link, and stays the last one behind it.
            have hadvance' := advance_append_of_link hplain hadvance hlink [name]
            have hrest : ((rest ++ [name]).isEmpty && !last) = false := by
              rw [List.isEmpty_eq_false_iff.mpr (List.append_ne_nil_of_right_ne_nil _
                (List.cons_ne_nil _ _)), Bool.false_and]
            have hfollow : t.follow true (n + 1) start names =
                t.follow true n (Terrain.behind place target) (Terrain.names target ++ rest) :=
              follow_of_link hadvance hlink (Bool.and_false _)
            rw [follow_of_link hadvance' hlink hrest, ← List.append_assoc, hfollow]
            exact ih (hs.behind hlink) fun place next hplace =>
              h place next (hfollow.trans hplace)

/-- One more name leads on from where the names before it lead. -/
theorem follow_concat_iff (hs : t.Sound) (hstart : t.found start = .directory)
    (h : ∀ via next, t.follow true n start names = .ok via → t.step via name = .ok next →
      t.NoLink next) :
    t.follow last n start (names ++ [name]) = .ok place ↔
      ∃ via, t.follow true n start names = .ok via ∧ t.step via name = .ok place := by
  rw [follow_concat hs hstart h]
  cases t.follow true n start names with
  | error refusal => exact ⟨fun hc => (nomatch hc), fun ⟨_, hc, _⟩ => nomatch hc⟩
  | ok via =>
      constructor
      · exact fun hstep => ⟨via, rfl, hstep⟩
      · rintro ⟨_, hvia, hstep⟩
        cases hvia
        exact hstep

/-- A path that is followed to its end does not end at a link. -/
theorem noLink_of_follow (h : t.follow true n start names = .ok place) : t.NoLink place := by
  induction n generalizing start names with
  | zero => exact nomatch h
  | succ n ih =>
      obtain ⟨next, rest, _, ⟨hnext, rfl⟩ | ⟨_, _, ⟨hrest, _⟩ | ⟨_, hfollow⟩⟩⟩ := follow_cases h
      · exact hnext
      · -- Links are followed here even at the end.
        rw [Bool.not_true, Bool.and_false] at hrest
        exact nomatch hrest
      · exact ih hfollow

/-- A path that does not end at a link leads to the same place if links at the end are followed. -/
theorem follow_true_of_noLink (h : t.follow last n start names = .ok place)
    (hplace : t.NoLink place) : t.follow true n start names = .ok place := by
  induction n generalizing start names with
  | zero => exact nomatch h
  | succ n ih =>
      obtain ⟨next, rest, hadvance, ⟨hnext, rfl⟩ | ⟨target, hlink, ⟨_, rfl⟩ | ⟨_, hfollow⟩⟩⟩ :=
        follow_cases h
      · exact follow_of_noLink hadvance hnext
      · exact absurd hlink (hplace target)
      · rw [follow_of_link hadvance hlink (Bool.and_false _)]
        exact ih hfollow

/-- Where a link at the end is not followed, names lead to the same place or to the link. -/
theorem follow_false_of_follow (h : t.follow true n start names = .ok place) :
    ∃ via, t.follow false n start names = .ok via ∧
      (via = place ∨ ∃ target, t.found via = .link target) := by
  induction n generalizing start names with
  | zero => exact nomatch h
  | succ n ih =>
      obtain ⟨next, rest, hadvance, ⟨hnext, rfl⟩ | ⟨target, hlink, ⟨hend, _⟩ | ⟨_, hfollow⟩⟩⟩ :=
        follow_cases h
      · exact ⟨next, follow_of_noLink hadvance hnext, .inl rfl⟩
      · rw [Bool.not_true, Bool.and_false] at hend
        exact nomatch hend
      · -- If the link is the last name, the way ends there; otherwise both ways follow it.
        by_cases hrest : rest = []
        · exact ⟨next, follow_of_last_link hadvance hlink (by rw [hrest]; rfl),
            .inr ⟨target, hlink⟩⟩
        · obtain ⟨via, hvia, hplace⟩ := ih hfollow
          refine ⟨via, (follow_of_link hadvance hlink ?_).trans hvia, hplace⟩
          rw [List.isEmpty_eq_false_iff.mpr hrest, Bool.false_and]

/-- A path leads to a place in a directory, whether or not anything is found at the place. -/
theorem follow_above (hs : t.Sound) (hstart : t.found start.dropLast = .directory)
    (h : t.follow last n start names = .ok place) : t.found place.dropLast = .directory := by
  induction n generalizing start names with
  | zero => exact nomatch h
  | succ n ih =>
      obtain ⟨next, rest, hadvance, ⟨_, rfl⟩ | ⟨target, hlink, ⟨_, rfl⟩ | ⟨_, hfollow⟩⟩⟩ :=
        follow_cases h
      · exact hs.above_advance hstart hadvance
      · exact hs.above_advance hstart hadvance
      · have hbehind := hs.behind hlink
        exact ih (hs.above fun hc => nomatch hbehind.symm.trans hc) hfollow

/-- From a place below which there are no links, names lead to places below it, as long as none of
them leads upwards. -/
theorem follow_below (hs : t.Sound) (hstart : t.found start = .directory)
    (hfollow : t.follow true n start names = .ok place)
    (hbelow : ∀ below, t.NoLink (place ++ below)) (hmore : ".." ∉ more)
    (h : t.follow true n start (names ++ more) = .ok next) : ∃ below, next = place ++ below := by
  -- The last name decides, since the place before it is below already.
  induction more using List.reverseRecOn generalizing next with
  | nil =>
      rw [List.append_nil, hfollow] at h
      exact ⟨[], (Except.ok.inj h).symm.trans (List.append_nil _).symm⟩
  | append_singleton more name ih =>
      rw [List.mem_append, List.mem_singleton, not_or] at hmore
      have hstep : ∀ {via next}, t.follow true n start (names ++ more) = .ok via →
          t.step via name = .ok next → ∃ below, next = place ++ below := by
        intro via next hvia hnext
        obtain ⟨below, rfl⟩ := ih hmore.1 hvia
        obtain ⟨_, ⟨_, rfl⟩ | ⟨hdots, _⟩ | ⟨_, _, rfl⟩⟩ := step_cases hnext
        · exact ⟨below, rfl⟩
        · exact absurd hdots.symm hmore.2
        · exact ⟨below ++ [name], List.append_assoc _ _ _⟩
      -- Below the place there are no links, so the last name can be split off.
      have hplain : ∀ via next, t.follow true n start (names ++ more) = .ok via →
          t.step via name = .ok next → t.NoLink next := by
        intro via next hvia hnext
        obtain ⟨below, rfl⟩ := hstep hvia hnext
        exact hbelow below
      rw [← List.append_assoc, follow_concat_iff hs hstart hplain] at h
      obtain ⟨via, hvia, hnext⟩ := h
      exact hstep hvia hnext

/-! ### Names that are too long -/

theorem size_of_step (h : t.step place name = .ok next) (hdot : name ≠ ".") (hdots : name ≠ "..") :
    t.size name ≤ nameLimit := by
  unfold step at h
  split at h
  next => exact nomatch h
  next =>
    rw [if_neg (fun hc => hdot (beq_iff_eq.mp hc)),
      if_neg (fun hc => hdots (beq_iff_eq.mp hc))] at h
    split at h
    next => exact nomatch h
    next hlong => exact Nat.not_lt.mp hlong
  next => exact nomatch h

/-- A name on the way is not too long, unless a link comes before it. -/
theorem size_of_advance (h : t.advance start names = .ok (place, rest)) (hmem : name ∈ names)
    (hdot : name ≠ ".") (hdots : name ≠ "..") :
    t.size name ≤ nameLimit ∨ name ∈ rest ∧ ∃ target, t.found place = .link target := by
  induction names generalizing start with
  | nil => exact absurd hmem List.not_mem_nil
  | cons first names ih =>
      obtain ⟨via, hstep, ⟨_, hrest⟩ | ⟨⟨target, hlink⟩, rfl, rfl⟩⟩ := advance_cons_cases h
      · rcases List.mem_cons.mp hmem with rfl | hmem
        · exact .inl (size_of_step hstep hdot hdots)
        · exact ih hrest hmem
      · rcases List.mem_cons.mp hmem with rfl | hmem
        · exact .inl (size_of_step hstep hdot hdots)
        · exact .inr ⟨hmem, target, hlink⟩

/-- Names that lead somewhere are not too long. What comes after a link is followed as well. -/
theorem size_of_follow (h : t.follow last n start names = .ok place) (hmem : name ∈ names)
    (hdot : name ≠ ".") (hdots : name ≠ "..") : t.size name ≤ nameLimit := by
  induction n generalizing start names with
  | zero => exact nomatch h
  | succ n ih =>
      obtain ⟨next, rest, hadvance, hnext⟩ := follow_cases h
      rcases size_of_advance hadvance hmem hdot hdots with hsize | ⟨hrest, target, hlink⟩
      · exact hsize
      · -- The name stands behind a link, which must have been followed then.
        rcases hnext with ⟨hplain, _⟩ | ⟨other, _, ⟨hend, _⟩ | ⟨_, hfollow⟩⟩
        · exact absurd hlink (hplain target)
        · rw [Bool.and_eq_true, List.isEmpty_iff] at hend
          exact absurd hrest (hend.1 ▸ List.not_mem_nil)
        · exact ih hfollow (List.mem_append_right _ hrest)

/-! ### Names along a path -/

/-- A path that the system takes: there is one, and it is not too long and holds no null. -/
structure Admits (t : Terrain) (path : String) : Prop where
  ne_empty : path ≠ ""
  no_null : '\x00' ∉ path.toList
  size_le : t.size path ≤ pathLimit

/-- Where a path begins. -/
def origin (base : Location) (path : String) : Location :=
  if Path.isAbsolute path then [] else base

theorem along_eq_ok_iff {base : Location} {path : String} :
    t.along last base path names = .ok place ↔
      t.Admits path ∧ t.follow last (linkLimit + 1) (origin base path) names = .ok place := by
  unfold along
  split
  next hempty => exact ⟨fun h => (nomatch h), fun h => absurd (beq_iff_eq.mp hempty) h.1.ne_empty⟩
  next hempty =>
    split
    next hnull =>
      exact ⟨fun h => (nomatch h), fun h => absurd (List.contains_iff_mem.mp hnull) h.1.no_null⟩
    next hnull =>
      split
      next hlong =>
        exact ⟨fun h => (nomatch h), fun h => absurd hlong (Nat.not_lt.mpr h.1.size_le)⟩
      next hlong =>
        have hadmits : t.Admits path :=
          ⟨fun hc => hempty (beq_iff_eq.mpr hc), fun hc => hnull (List.contains_iff_mem.mpr hc),
            Nat.not_lt.mp hlong⟩
        exact ⟨fun h => ⟨hadmits, h⟩, fun h => h.2⟩

end Ways

/-! ### What stays of a way -/

/-- Where there was a directory or a link there is one still, and nothing else has become a link. -/
structure Keeps (t t' : Terrain) : Prop where
  size : t'.size = t.size
  directory : ∀ {place}, t.found place = .directory → t'.found place = .directory
  link : ∀ {place target}, t.found place = .link target → t'.found place = .link target
  noLink : ∀ {place}, t.NoLink place → t'.NoLink place

namespace Keeps

variable {t t' t'' : Terrain} {place next start base : Location} {name path : String}
  {names rest : List String} {last : Bool} {n : Nat}

theorem refl (t : Terrain) : Keeps t t := ⟨rfl, id, id, id⟩

theorem trans (h : Keeps t t') (h' : Keeps t' t'') : Keeps t t'' where
  size := h'.size.trans h.size
  directory hplace := h'.directory (h.directory hplace)
  link hlink := h'.link (h.link hlink)
  noLink hplace := h'.noLink (h.noLink hplace)

theorem step (h : Keeps t t') (hstep : t.step place name = .ok next) :
    t'.step place name = .ok next := by
  have hplace := (step_cases hstep).1
  unfold Terrain.step at hstep ⊢
  rw [hplace] at hstep
  rwa [h.directory hplace, h.size]

theorem advance (h : Keeps t t') (hadvance : t.advance place names = .ok (next, rest)) :
    t'.advance place names = .ok (next, rest) := by
  induction names generalizing place with
  | nil => exact hadvance
  | cons name names ih =>
      obtain ⟨via, hstep, ⟨hvia, hrest⟩ | ⟨⟨target, hlink⟩, rfl, rfl⟩⟩ :=
        advance_cons_cases hadvance
      · exact (advance_cons_of_noLink (h.step hstep) (h.noLink hvia)).trans (ih hrest)
      · exact advance_cons_of_link (h.step hstep) (h.link hlink)

theorem follow (h : Keeps t t') (hfollow : t.follow last n start names = .ok place) :
    t'.follow last n start names = .ok place := by
  induction n generalizing start names with
  | zero => exact nomatch hfollow
  | succ n ih =>
      -- A place without a link, a last link and a link on the way all stay what they are.
      obtain ⟨next, rest, hnames, ⟨hnext, rfl⟩ | ⟨target, hlink, ⟨hrest, rfl⟩ | ⟨hrest, hmore⟩⟩⟩ :=
        follow_cases hfollow
      · exact follow_of_noLink (h.advance hnames) (h.noLink hnext)
      · exact follow_of_last_link (h.advance hnames) (h.link hlink) hrest
      · exact (follow_of_link (h.advance hnames) (h.link hlink) hrest).trans (ih hmore)

/-- A path leads where it led before. -/
theorem along (h : Keeps t t') (halong : t.along last base path names = .ok place) :
    t'.along last base path names = .ok place := by
  obtain ⟨⟨hempty, hnull, hsize⟩, hfollow⟩ := along_eq_ok_iff.mp halong
  exact along_eq_ok_iff.mpr ⟨⟨hempty, hnull, h.size.symm ▸ hsize⟩, h.follow hfollow⟩

end Keeps

/-- What was found is still found, and what is found besides is no link. -/
structure Grows (t t' : Terrain) : Prop where
  size : t'.size = t.size
  kept : ∀ {place}, t.found place ≠ .absent → t'.found place = t.found place
  plain : ∀ {place}, t.found place = .absent → t'.NoLink place

namespace Grows

variable {t t' t'' : Terrain}

theorem refl (t : Terrain) : Grows t t where
  size := rfl
  kept _ := rfl
  plain habsent _ hlink := nomatch habsent.symm.trans hlink

/-- What is found besides stands in no way. -/
theorem keeps (h : Grows t t') : Keeps t t' where
  size := h.size
  directory hplace := (h.kept fun hc => nomatch hplace.symm.trans hc).trans hplace
  link hlink := (h.kept fun hc => nomatch hlink.symm.trans hc).trans hlink
  noLink {place} hplace := by
    by_cases habsent : t.found place = .absent
    · exact h.plain habsent
    · intro target hlink
      exact hplace target ((h.kept habsent).symm.trans hlink)

theorem trans (h : Grows t t') (h' : Grows t' t'') : Grows t t'' where
  size := h'.size.trans h.size
  kept hpresent :=
    (h'.kept fun hc => hpresent ((h.kept hpresent).symm.trans hc)).trans (h.kept hpresent)
  plain habsent := h'.keeps.noLink (h.plain habsent)

end Grows

end Terrain

end EnvProfiles
