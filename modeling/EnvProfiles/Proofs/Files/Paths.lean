import EnvProfiles.Files.Terrain
import EnvProfiles.Proofs.Text.Cuts
import Mathlib.Data.List.Infix

/-!
# Names of Paths

Which names the paths follow that are made from others. A path below another one
follows its names and then one more, and both begin at the same place. The path
of the directory above follows some of the names, from the front, though it may
be written otherwise: slashes and dots that name nothing are left out of it.

## Theorems

* `Terrain.demandedNames_join`: The names of a path below another one.
* `Path.isAbsolute_join`: Both begin at the same place.
* `Terrain.names_parent?`: The names of the path above are the first ones.
-/

namespace EnvProfiles

/-! ### A path below another one -/

/-- The parts of two paths with a slash in between. -/
theorem Path.parts_append_slash (path below : String) :
    parts (path ++ "/" ++ below) = parts path ++ parts below := by
  rw [parts, String.toList_append, String.toList_append, List.append_assoc]
  exact (congrArg _ (splitAt_append_cons '/' path.toList below.toList)).trans List.map_append

theorem Terrain.names_append_slash (path below : String) :
    names (path ++ "/" ++ below) = names path ++ names below := by
  rw [names, Path.parts_append_slash, List.filter_append, names, names]

/-- A text can name something in a directory: it is not empty, it is no dots, and it holds no
slash. -/
structure IsName (name : String) : Prop where
  ne_empty : name ≠ ""
  ne_dot : name ≠ "."
  ne_dots : name ≠ ".."
  no_slash : '/' ∉ name.toList

namespace IsName

variable {name : String}

theorem toList_ne_nil (h : IsName name) : name.toList ≠ [] :=
  fun hc => h.ne_empty (String.toList_eq_nil_iff.mp hc)

/-- A name is the only one of its path. -/
theorem names_eq (h : IsName name) : Terrain.names name = [name] := by
  rw [Terrain.names, Path.parts, splitAt_of_not_mem h.no_slash, List.map_singleton,
    String.ofList_toList]
  exact List.filter_cons_of_pos (bne_iff_ne.mpr h.ne_empty)

theorem not_isAbsolute (h : IsName name) : Path.isAbsolute name = false := by
  rw [Path.isAbsolute, beq_eq_false_iff_ne]
  exact fun hc => h.no_slash (List.mem_of_head? hc)

/-- A path that ends with a name ends with no slash. -/
theorem not_endsWithSlash (h : IsName name) (path : String) :
    Terrain.endsWithSlash (path ++ name) = false := by
  rw [Terrain.endsWithSlash, String.toList_append,
    List.getLast?_append_of_ne_nil _ h.toList_ne_nil, beq_eq_false_iff_ne]
  exact fun hc => h.no_slash (List.mem_of_getLast? hc)

theorem demandedNames_eq (h : IsName name) : Terrain.demandedNames name = [name] := by
  have hslash := h.not_endsWithSlash ""
  rw [String.empty_append] at hslash
  rw [Terrain.demandedNames, h.names_eq, hslash, if_neg Bool.false_ne_true, List.append_nil]

end IsName

/-- A path below the empty one stands alone. -/
theorem Path.join_empty (below : String) : join "" below = below :=
  if_pos (Bool.or_eq_true_iff.mpr (.inr (beq_self_eq_true "")))

/-- A path below another one is the other with a slash, which may be there already, and a name. -/
theorem Path.join_eq {path name : String} (hpath : path ≠ "") (h : IsName name) :
    join path name = (if Terrain.endsWithSlash path then path else path ++ "/") ++ name := by
  rw [join, h.not_isAbsolute, Bool.false_or, if_neg (by simpa only [beq_iff_eq] using hpath),
    Terrain.endsWithSlash]
  split <;> rfl

theorem Path.isAbsolute_join {path name : String} (hpath : path ≠ "") (h : IsName name) :
    isAbsolute (join path name) = isAbsolute path := by
  have hne : path.toList ≠ [] := fun hc => hpath (String.toList_eq_nil_iff.mp hc)
  rw [join_eq hpath h, isAbsolute, isAbsolute]
  split
  · rw [String.toList_append, List.head?_append_of_ne_nil _ hne]
  · rw [String.append_assoc, String.toList_append, List.head?_append_of_ne_nil _ hne]

/-- A slash at the end of a path names nothing. -/
theorem Terrain.names_of_endsWithSlash {path : String} (h : endsWithSlash path = true) :
    ∃ before, path = before ++ "/" ∧ names path = names before := by
  obtain ⟨cs, hcs⟩ := List.getLast?_eq_some_iff.mp (beq_iff_eq.mp h)
  have hpath : path = String.ofList cs ++ "/" := by
    rw [← String.toList_inj, hcs, String.toList_append, String.toList_ofList]
    rfl
  refine ⟨String.ofList cs, hpath, ?_⟩
  have hempty : names "" = [] := rfl
  -- Behind the slash there is the empty path, which has no names.
  have hnames := names_append_slash (String.ofList cs) ""
  rwa [String.append_empty, ← hpath, hempty, List.append_nil] at hnames

/-- The names of a path below another one. -/
theorem Terrain.demandedNames_join {path name : String} (hpath : path ≠ "") (h : IsName name) :
    demandedNames (Path.join path name) = names path ++ [name] := by
  rw [demandedNames, Path.join_eq hpath h, h.not_endsWithSlash]
  simp only [Bool.false_eq_true, if_false, List.append_nil]
  split
  next hslash =>
    obtain ⟨before, hbefore, hnames⟩ := names_of_endsWithSlash hslash
    rw [hnames, hbefore, names_append_slash, h.names_eq]
  next => rw [names_append_slash, h.names_eq]

/-! ### The path above -/

/-- What is left of parts are the last of them. -/
theorem Path.trimParts_isSuffix (parts : List String) : trimParts parts <:+ parts := by
  induction parts with
  | nil => exact List.suffix_rfl
  | cons part parts ih =>
      cases parts with
      | nil =>
          rw [trimParts]
          split
          · exact List.suffix_rfl
          · exact List.nil_suffix
      | cons next rest =>
          rw [trimParts]
          · split
            · exact List.suffix_rfl
            · exact ih.trans (List.suffix_cons _ _)
          · exact fun h => nomatch h

/-- What is left of parts does not consist of an empty one. -/
theorem Path.trimParts_ne_singleton (parts : List String) : trimParts parts ≠ [""] := by
  induction parts with
  | nil => exact fun h => nomatch h
  | cons part parts ih =>
      cases parts with
      | nil =>
          rw [trimParts]
          split
          next hnames =>
            intro h
            rw [List.singleton_inj.mp h] at hnames
            exact absurd hnames (by decide)
          next => exact fun h => nomatch h
      | cons next rest =>
          rw [trimParts]
          · split
            · exact fun h => nomatch h
            · exact ih
          · exact fun h => nomatch h

/-- A path is absolute if its first part is empty and not the only one. -/
theorem Path.isAbsolute_iff {path : String} :
    isAbsolute path = true ↔ ∃ rest, parts path = "" :: rest ∧ rest ≠ [] := by
  rw [isAbsolute, parts]
  cases path.toList with
  | nil =>
      constructor
      · exact fun h => absurd h Bool.false_ne_true
      · rintro ⟨rest, h, hne⟩
        exact absurd (List.cons.inj h).2.symm hne
  | cons c cs =>
      rw [List.head?_cons, beq_iff_eq, Option.some_inj, splitAt]
      obtain ⟨piece, pieces, hcs⟩ := List.exists_cons_of_ne_nil (cutAt_ne_nil (· == '/') cs)
      -- If a path begins with a slash, its first part is empty, and otherwise it is not.
      cases hc : c == '/' with
      | true =>
          rw [cutAt_cons_of_pos (· == '/') hc, hcs]
          exact ⟨fun _ => ⟨_, rfl, List.cons_ne_nil _ _⟩, fun _ => beq_iff_eq.mp hc⟩
      | false =>
          rw [cutAt_cons_of_neg (· == '/') hc hcs]
          constructor
          · exact fun h => absurd h (beq_eq_false_iff_ne.mp hc)
          · rintro ⟨rest, h, _⟩
            have hpiece : String.ofList (c :: piece) = "" := (List.cons.inj h).1
            have hempty := congrArg String.toList hpiece
            rw [String.toList_ofList] at hempty
            exact absurd hempty (List.cons_ne_nil _ _)

/-- A path that is put together from parts has these parts. -/
theorem Path.parts_intercalate {kept : List String} (hne : kept ≠ [])
    (h : ∀ part ∈ kept, '/' ∉ part.toList) : parts (String.intercalate "/" kept) = kept := by
  rw [parts, String.toList_intercalate]
  have hcut : splitAt '/' (['/'].intercalate (kept.map String.toList)) = kept.map String.toList :=
    splitAt_intercalate (fun hc => hne (List.map_eq_nil_iff.mp hc)) (List.forall_mem_map.mpr h)
  refine (congrArg (List.map String.ofList) hcut).trans ?_
  rw [List.map_map]
  exact (List.map_congr_left fun part _ => String.ofList_toList).trans (List.map_id kept)

/-- The path above begins at the same place, and its names are the first ones. -/
theorem Terrain.names_parent? {path above : String} (h : Path.parent? path = some above) :
    names above <+: names path ∧ Path.isAbsolute above = Path.isAbsolute path := by
  unfold Path.parent? at h
  split at h
  next => exact nomatch h
  next part rest hpath =>
    -- The parts are kept in reverse, so that what is cut off at the end is the front of the row.
    have hrest : (Path.trimParts rest).reverse <+: Path.parts path := by
      rw [← List.reverse_suffix, List.reverse_reverse]
      refine (Path.trimParts_isSuffix rest).trans ((List.suffix_cons part rest).trans ?_)
      exact hpath ▸ Path.trimParts_isSuffix _
    split at h
    next hkept =>
      rw [← Option.some.inj h]
      by_cases habsolute : Path.isAbsolute path = true
      · rw [if_pos habsolute, habsolute]
        exact ⟨List.nil_prefix, rfl⟩
      · rw [if_neg habsolute, Bool.eq_false_iff.mpr habsolute]
        exact ⟨List.nil_prefix, rfl⟩
    next hkept =>
      have hne : (Path.trimParts rest).reverse ≠ [] :=
        fun hc => hkept (List.reverse_eq_nil_iff.mp hc)
      -- Put together again, parts without slashes are the parts of the path above.
      have hslash : ∀ p ∈ (Path.trimParts rest).reverse, '/' ∉ p.toList := by
        intro p hp
        obtain ⟨piece, hpiece, rfl⟩ := List.mem_map.mp (hrest.subset hp)
        rw [String.toList_ofList]
        exact not_mem_of_mem_splitAt hpiece
      have hparts := Path.parts_intercalate hne hslash
      rw [Option.some.inj h] at hparts
      refine ⟨?_, Bool.eq_iff_iff.mpr ?_⟩
      · rw [names, hparts]
        exact hrest.filter _
      · rw [Path.isAbsolute_iff, Path.isAbsolute_iff, hparts]
        obtain ⟨more, hmore⟩ := hrest
        constructor
        · rintro ⟨others, hothers, hne'⟩
          exact ⟨others ++ more, by rw [← hmore, hothers, List.cons_append],
            fun hc => hne' (List.append_eq_nil_iff.mp hc).1⟩
        · -- If the path is absolute, the first part is kept, but not alone: it is empty.
          rintro ⟨others, hothers, _⟩
          obtain ⟨first, kept, hfirst⟩ := List.exists_cons_of_ne_nil hne
          rw [hfirst, hothers, List.cons_append] at hmore
          refine ⟨kept, hfirst.trans (by rw [(List.cons.inj hmore).1]), fun hc => ?_⟩
          rw [hc, (List.cons.inj hmore).1] at hfirst
          exact Path.trimParts_ne_singleton rest
            (List.reverse_inj.mp (hfirst.trans List.reverse_singleton.symm))

end EnvProfiles
