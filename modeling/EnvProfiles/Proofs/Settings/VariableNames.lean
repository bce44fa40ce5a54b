import EnvProfiles.Proofs.Settings.Layers

/-!
# Names of Variables

Which variable of the environment sets an option: the one whose name consists of
the start that was given, the group and the name of the option, in capitals and
with two underscores in between. Case does not matter, so names are compared in
lower case. What a letter becomes there may depend on what stands before and
after it, but not on what stands beyond an underscore, since no word goes on
there.

## Main definitions

* `SettingKey.variableName`: What comes after the start in the name of the
  variable of an option.

## Theorems

* `lowerAfter_append`: A text is put into lower case in two parts.
* `Loader.variableKey?_variableName`: The variable of an option names it.
* `Loader.NamesOptions.says?_eq`: What that variable says is what the environment
  says.
-/

namespace EnvProfiles

/-! ### Lower case up to an underscore -/

theorem isCaseIgnorable_underscore : isCaseIgnorable '_' = false := by decide +kernel

/-- Whether a cased letter comes next is decided at an underscore at the latest. -/
theorem reachesCased_append (cs r r' : List Char) :
    reachesCased (cs ++ '_' :: r) = reachesCased (cs ++ '_' :: r') := by
  induction cs with
  | nil =>
      simp only [reachesCased, List.nil_append, List.dropWhile_cons, isCaseIgnorable_underscore,
        Bool.false_eq_true, if_false]
  | cons d cs ih =>
      unfold reachesCased at ih ⊢
      rw [List.cons_append, List.cons_append, List.dropWhile_cons, List.dropWhile_cons]
      by_cases hd : isCaseIgnorable d = true
      · rw [if_pos hd, if_pos hd]
        exact ih
      · rw [if_neg hd, if_neg hd]

/-- What stands beyond an underscore makes no difference to letters before it. -/
theorem lowerAfter_append (before cs r : List Char) :
    lowerAfter before (cs ++ '_' :: r) =
      lowerAfter before (cs ++ ['_']) ++ lowerAfter ('_' :: cs.reverse ++ before) r := by
  induction cs generalizing before with
  | nil => rfl
  | cons d cs ih =>
      rw [List.cons_append, List.cons_append, lowerAfter, lowerAfter, ih,
        reachesCased_append cs r []]
      simp only [List.append_assoc, List.reverse_cons, List.cons_append, List.nil_append]

/-! ### The variables of options -/

/-- What comes after the start and two underscores in the name of the variable of an option. -/
def SettingKey.variableName : SettingKey → String
  | .storePath => "STORE__PATH"
  | .outdir => "EXPORT__OUTDIR"
  | .extension => "EXPORT__EXTENSION"
  | .editorCommand => "EDITOR__COMMAND"
  | .logLevel => "LOG__LEVEL"
  | .logFileLevel => "LOG__FILE_LEVEL"
  | .logFile => "LOG__FILE"

theorem lowerAfter_variableName (before : List Char) (k : SettingKey) :
    Loader.dotted (lowerAfter before k.variableName.toList) = k.text.toList := by
  cases k <;> rfl

namespace Loader

/-- The variable of an option sets it, however the names begin. -/
theorem variableKey?_variableName (start : String) (k : SettingKey) :
    variableKey? start (start ++ "__" ++ k.variableName) = some k.text := by
  have hfront : (lowerCase (start ++ "__")).toList =
      lowerAfter [] (start.toList ++ ['_'] ++ ['_']) := by
    rw [lowerCase, String.toList_ofList, String.toList_append, List.append_assoc]
    rfl
  -- The front ends in an underscore, so that what it becomes does not depend on what follows.
  have hname : (lowerCase (start ++ "__" ++ k.variableName)).toList =
      (lowerCase (start ++ "__")).toList ++
        lowerAfter ('_' :: (start.toList ++ ['_']).reverse ++ []) k.variableName.toList := by
    rw [hfront, ← lowerAfter_append, lowerCase, String.toList_ofList, String.toList_append,
      String.toList_append, List.append_assoc, List.append_assoc]
    rfl
  rw [variableKey?, hname, if_pos (List.isPrefixOf_iff_prefix.mpr (List.prefix_append _ _)),
    List.drop_left, lowerAfter_variableName, String.ofList_toList]

/-- What the variable of an option says is what the environment says. -/
theorem NamesOptions.says?_eq {start : String} {environment : Dict}
    (h : NamesOptions start environment) (k : SettingKey) {value : String}
    (hvalue : environment.get? (start ++ "__" ++ k.variableName) = some value) :
    environmentSays? start environment k = some (variableValue value) := by
  have hmem : (start ++ "__" ++ k.variableName, value) ∈ environment.toList :=
    Dict.mem_of_lookup hvalue
  have hkey := variableKey?_variableName start k
  have hsays : variableSays? start k (start ++ "__" ++ k.variableName, value) =
      some (variableValue value) := if_pos hkey
  cases hfound : environmentSays? start environment k with
  | none =>
      have hnone := List.findSome?_eq_none_iff.mp hfound _ hmem
      exact nomatch hsays.symm.trans hnone
  | some v =>
      -- Another variable may have been found, in other letters, but no two name the same option.
      obtain ⟨e, he, hv⟩ := List.exists_of_findSome?_eq_some hfound
      rw [variableSays?] at hv
      split at hv
      next hkey' =>
        obtain rfl := h.distinct e he _ hmem k.text hkey' hkey
        exact hv.symm
      next => cases hv

end Loader

end EnvProfiles
