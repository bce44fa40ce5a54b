import EnvProfiles.Proofs.Documents.Shapes

/-!
# Reading Profiles

The functions that read a profile keep to the rules that say which values are
profiles. Each of them is described by what it finds and by the words in which
it fails, and the statement about a whole text puts the two together.

## Main definitions

* `Document.FailsWith`: A check fails, with a wording.

## Theorems

* `Document.ancestorsOf_eq_ok`, `Document.ancestorsOf_failsWith`: The ancestors.
* `Document.variablesOf_ok_iff`, `Document.variablesOf_failsWith`: A block.
* `Document.ofValue_ok_iff`, `Document.ofValue_failsWith`: A whole value.
* `Document.parse_of_read`: When a text is a profile, what it says then, and
  what is reported otherwise.
-/

namespace EnvProfiles

open Yaml (Value)

namespace Document

variable {α β : Type} {message : String} {v : Value} {found : Option Value} {doc : Document}

/-! ### Failing checks -/

/-- A check fails, with a wording. -/
def FailsWith (result : Except DocumentFault α) (message : String) : Prop :=
  ∃ cause, result = .error cause ∧ cause.message = message

@[simp] theorem failsWith_error {cause : DocumentFault} :
    FailsWith (.error cause : Except DocumentFault α) message ↔ cause.message = message :=
  ⟨fun ⟨_, h, hmessage⟩ => Except.error.inj h ▸ hmessage, fun h => ⟨cause, rfl, h⟩⟩

@[simp] theorem not_failsWith_ok {a : α} : ¬ FailsWith (.ok a) message := fun ⟨_, h, _⟩ => nomatch h

theorem bind_eq_ok {x : Except DocumentFault α} {f : α → Except DocumentFault β} {b : β} :
    (x >>= f) = .ok b ↔ ∃ a, x = .ok a ∧ f a = .ok b := by
  cases x with
  | error cause => exact ⟨fun h => (nomatch h), fun ⟨_, h, _⟩ => nomatch h⟩
  | ok a => exact ⟨fun h => ⟨a, rfl, h⟩, fun ⟨_, h, hb⟩ => Except.ok.inj h ▸ hb⟩

/-- A fault of shape names the kind of the value behind its wording. -/
theorem failsWith_kind {m : String} (cause : Shape → DocumentFault) {wording : String}
    (h : ∀ shape, (cause shape).message = wording ++ shape.name) :
    FailsWith (.error (cause (.ofValue v)) : Except DocumentFault α) m ↔
      ∃ kind, v.Called kind ∧ wording ++ kind = m := by
  simp only [failsWith_error, h, Value.called_iff, exists_eq_left']

/-- Of two checks the second one is made only if the first one succeeds. -/
theorem failsWith_bind {x : Except DocumentFault α} {f : α → Except DocumentFault β} :
    FailsWith (x >>= f) message ↔
      FailsWith x message ∨ ∃ a, x = .ok a ∧ FailsWith (f a) message := by
  cases x with
  | error cause =>
      refine Iff.trans (failsWith_error.trans failsWith_error.symm) (or_iff_left ?_).symm
      exact fun ⟨_, h, _⟩ => nomatch h
  | ok a =>
      refine Iff.trans ?_ (or_iff_right not_failsWith_ok).symm
      exact ⟨fun h => ⟨a, rfl, h⟩, fun ⟨_, h, hb⟩ => Except.ok.inj h ▸ hb⟩

theorem failsWith_mapM {f : α → Except DocumentFault β} {l : List α} :
    FailsWith (l.mapM f) message ↔ ∃ before a after, l = before ++ a :: after ∧
      (∀ other ∈ before, ∃ b, f other = .ok b) ∧ FailsWith (f a) message := by
  simp only [FailsWith, mapM_eq_error]
  constructor
  · rintro ⟨cause, ⟨before, a, after, hl, hbefore, ha⟩, hmessage⟩
    exact ⟨before, a, after, hl, hbefore, cause, ha, hmessage⟩
  · rintro ⟨before, a, after, hl, hbefore, cause, ha, hmessage⟩
    exact ⟨cause, ⟨before, a, after, hl, hbefore, ha⟩, hmessage⟩

theorem mapM_ok_iff {f : α → Except DocumentFault β} {l : List α} :
    (∃ found, l.mapM f = .ok found) ↔ ∀ a ∈ l, ∃ b, f a = .ok b := by
  simp only [mapM_eq_ok]
  induction l with
  | nil => exact ⟨fun _ _ h => (nomatch h), fun _ => ⟨[], .nil⟩⟩
  | cons a l ih =>
      rw [List.forall_mem_cons, ← ih]
      constructor
      · rintro ⟨_, _ | ⟨ha, hl⟩⟩
        exact ⟨⟨_, ha⟩, _, hl⟩
      · rintro ⟨⟨b, ha⟩, rest, hl⟩
        exact ⟨b :: rest, .cons ha hl⟩

/-! ### Ancestors -/

theorem ancestor_eq_ok {name : String} : ancestor v = .ok name ↔ v.IsName ∧ v.HasText name := by
  rw [Value.isName_iff, Value.isWord_iff, Value.hasText_iff]
  cases v with
  | null => exact ⟨fun h => (nomatch h), fun h => absurd rfl h.1.1⟩
  | bool _ | int _ | float _ | text _ =>
      exact ⟨fun h => ⟨⟨nofun, _, Value.hasText_iff.mpr rfl⟩, congrArg some (Except.ok.inj h)⟩,
        fun h => congrArg Except.ok (Option.some.inj h.2)⟩
  | sequence _ | mapping _ | tagged _ _ =>
      exact ⟨fun h => (nomatch h), fun h => (nomatch h.2)⟩

theorem ancestor_ok_iff : (∃ name, ancestor v = .ok name) ↔ v.IsName := by
  simp only [ancestor_eq_ok, exists_and_left]
  exact and_iff_left_of_imp fun h => Value.isWord_iff.mp (.name h)

theorem ancestor_failsWith : FailsWith (ancestor v) message ↔ ¬ v.IsName ∧ ∃ kind, v.Called kind ∧
    "extends entries must be profile names, found " ++ kind = message := by
  -- A null is told apart from a name, although it has a text.
  have hkind := failsWith_kind (α := String) (v := v) (m := message) .ancestorShape fun _ => rfl
  cases v with
  | bool _ | int _ | float _ | text _ =>
      exact ⟨fun h => absurd h not_failsWith_ok, fun h => absurd (by constructor) h.1⟩
  | null | sequence _ | mapping _ | tagged _ _ =>
      exact hkind.trans ⟨fun h => ⟨nofun, h⟩, fun h => h.2⟩

theorem ancestorsOf_eq_ok {names : List String} : ancestorsOf found = .ok names ↔
    IsAncestry (found.getD .null) ∧ Names (found.getD .null) names := by
  have hnull : Except.ok (ε := DocumentFault) ([] : List String) = .ok names ↔
      IsAncestry .null ∧ Names .null names :=
    ⟨fun h => Except.ok.inj h ▸ ⟨.null, .null⟩, fun h => by cases h.2; rfl⟩
  rcases found with _ | (_ | _ | _ | _ | _ | items | _ | _)
  · exact hnull
  · exact hnull
  case some.sequence =>
    rw [ancestorsOf, mapM_eq_ok]
    simp only [ancestor_eq_ok]
    rw [List.forall₂_and_left]
    constructor
    · exact fun h => ⟨.sequence h.1, .sequence h.2⟩
    · rintro ⟨_ | hnames, _ | htexts⟩
      exact ⟨hnames, htexts⟩
  all_goals exact ⟨fun h => (nomatch h), fun h => (nomatch h.2)⟩

theorem ancestorsOf_ok_iff :
    (∃ names, ancestorsOf found = .ok names) ↔ IsAncestry (found.getD .null) := by
  rcases found with _ | (_ | _ | _ | _ | _ | items | _ | _)
  · exact ⟨fun _ => .null, fun _ => ⟨_, rfl⟩⟩
  · exact ⟨fun _ => .null, fun _ => ⟨_, rfl⟩⟩
  case some.sequence =>
    rw [ancestorsOf, mapM_ok_iff]
    simp only [ancestor_ok_iff]
    exact ⟨.sequence, fun h => by cases h; assumption⟩
  all_goals exact ⟨fun ⟨_, h⟩ => (nomatch h), fun h => (nomatch h)⟩

theorem ancestorsOf_failsWith :
    FailsWith (ancestorsOf found) message ↔ AncestryFault (found.getD .null) message := by
  have hshape := failsWith_kind (α := List String) (v := found.getD .null) (m := message)
    .ancestorsShape fun _ => rfl
  have hnull : ¬ AncestryFault .null message := by
    rintro ⟨h, -, -⟩
    exact h rfl
  rcases found with _ | (_ | _ | _ | _ | _ | items | _ | _)
  · exact ⟨fun h => absurd h not_failsWith_ok, fun h => absurd h hnull⟩
  · exact ⟨fun h => absurd h not_failsWith_ok, fun h => absurd h hnull⟩
  case some.sequence =>
    -- The first item that fails is the first one that is no name.
    rw [ancestorsOf, failsWith_mapM]
    simp only [ancestor_failsWith, ancestor_ok_iff]
    constructor
    · rintro ⟨before, item, after, rfl, hbefore, hitem, kind, hkind, rfl⟩
      exact .item hbefore hitem hkind
    · rintro (⟨-, h, -⟩ | @⟨before, after, item, kind, hbefore, hitem, hkind⟩)
      · exact absurd rfl (h items)
      · exact ⟨before, item, after, rfl, hbefore, hitem, kind, hkind, rfl⟩
  all_goals
    refine hshape.trans ⟨?_, ?_⟩
    · rintro ⟨kind, hkind, rfl⟩
      exact .shape nofun nofun hkind
    · rintro ⟨-, -, hkind⟩
      exact ⟨_, hkind, rfl⟩

/-! ### Blocks -/

variable {block : Block} {entry : Value × Value}

theorem binding_eq_ok {pair : String × String} :
    binding block entry = .ok pair ↔ entry.1.HasText pair.1 ∧ entry.2.HasText pair.2 := by
  rw [Value.hasText_iff, Value.hasText_iff, binding]
  split
  next hname => simp [hname]
  next name hname =>
    split
    next hvalue => simp [hvalue]
    next value hvalue =>
      rw [hname, hvalue, Option.some_inj, Option.some_inj, Except.ok.injEq]
      exact Prod.ext_iff

theorem binding_ok_iff :
    (∃ pair, binding block entry = .ok pair) ↔ entry.1.IsWord ∧ entry.2.IsWord := by
  simp only [binding_eq_ok, Value.isWord_iff]
  exact ⟨fun ⟨pair, hname, hvalue⟩ => ⟨⟨_, hname⟩, _, hvalue⟩,
    fun ⟨⟨name, hname⟩, value, hvalue⟩ => ⟨(name, value), hname, hvalue⟩⟩

/-- The value is looked at only if the name is a word. -/
theorem binding_failsWith :
    FailsWith (binding block entry) message ↔ EntryFault block.key entry message := by
  obtain ⟨k, v⟩ := entry
  rw [binding]
  split
  next hname =>
    rw [failsWith_error]
    have hname := Value.scalarText?_eq_none_iff.mp hname
    constructor
    · rintro rfl
      exact .name hname (Value.called_iff.mpr rfl)
    · rintro (⟨-, hkind⟩ | ⟨htext, -⟩)
      · rw [← Value.called_iff.mp hkind]
        rfl
      · exact absurd (Value.isWord_iff.mpr ⟨_, htext⟩) hname
  next name hname =>
    have hname := Value.hasText_iff.mpr hname
    -- The name is a word, so that the fault can only be that of the value.
    have hword := Value.isWord_iff.mpr ⟨_, hname⟩
    split
    next hvalue =>
      rw [failsWith_error]
      constructor
      · rintro rfl
        exact .value hname (Value.scalarText?_eq_none_iff.mp hvalue) (Value.called_iff.mpr rfl)
      · rintro (⟨h, -⟩ | ⟨htext, -, hkind⟩)
        · exact absurd hword h
        · rw [← Value.called_iff.mp hkind,
            Option.some.inj ((Value.hasText_iff.mp htext).symm.trans (Value.hasText_iff.mp hname))]
          rfl
    next value hvalue =>
      refine ⟨fun h => absurd h not_failsWith_ok, ?_⟩
      rintro (⟨h, -⟩ | ⟨-, h, -⟩)
      · exact absurd hword h
      · exact absurd (Value.isWord_iff.mpr ⟨_, Value.hasText_iff.mpr hvalue⟩) h

theorem variablesOf_ok_iff :
    (∃ dict, variablesOf block found = .ok dict) ↔ IsBlock (found.getD .null) := by
  rcases found with _ | (_ | _ | _ | _ | _ | _ | entries | _)
  · exact ⟨fun _ => .null, fun _ => ⟨_, rfl⟩⟩
  · exact ⟨fun _ => .null, fun _ => ⟨_, rfl⟩⟩
  case some.mapping =>
    -- Collecting the pairs cannot fail.
    have hmap : (∃ dict, variablesOf block (some (.mapping entries)) = .ok dict) ↔
        ∃ pairs, entries.mapM (binding block) = .ok pairs := by
      rw [variablesOf]
      cases entries.mapM (binding block) with
      | error cause => exact ⟨fun ⟨_, h⟩ => (nomatch h), fun ⟨_, h⟩ => (nomatch h)⟩
      | ok pairs => exact ⟨fun _ => ⟨pairs, rfl⟩, fun _ => ⟨_, rfl⟩⟩
    rw [hmap, mapM_ok_iff]
    simp only [binding_ok_iff]
    exact ⟨.mapping, fun h => by cases h; assumption⟩
  all_goals exact ⟨fun ⟨_, h⟩ => (nomatch h), fun h => (nomatch h)⟩

/-- The name and the value of an entry, if both are words. -/
def texts (entry : Value × Value) : String × String :=
  (entry.1.scalarText?.getD "", entry.2.scalarText?.getD "")

theorem hasText_texts {entry : Value × Value} (h : ∃ pair, binding block entry = .ok pair) :
    entry.1.HasText (texts entry).1 ∧ entry.2.HasText (texts entry).2 := by
  obtain ⟨pair, hpair⟩ := h
  obtain ⟨hname, hvalue⟩ := binding_eq_ok.mp hpair
  rw [Value.hasText_iff] at hname hvalue
  rw [texts, Value.hasText_iff, Value.hasText_iff, hname, hvalue]
  exact ⟨rfl, rfl⟩

/-- The last entry of a name decides its value. -/
theorem variables_ofList {entries : List (Value × Value)}
    (h : ∀ entry ∈ entries, ∃ pair, binding block entry = .ok pair) :
    Variables (.mapping entries) (.ofList (entries.map texts)) := by
  intro name value
  rw [Dict.get?_ofList_eq_some_iff]
  constructor
  · -- The last pair of the name comes of the last entry of the name.
    rintro ⟨before, after, hpairs, hafter⟩
    obtain ⟨before', rest, rfl, rfl, hrest⟩ := List.map_eq_append_iff.mp hpairs
    obtain ⟨⟨k, v⟩, after', rfl, hentry, rfl⟩ := List.map_eq_cons_iff.mp hrest
    obtain ⟨hk, hv⟩ := hasText_texts (h (k, v) (by simp))
    rw [hentry] at hk hv
    refine .mapping hk hv fun other hmem hname => ?_
    refine hafter _ (List.mem_map_of_mem hmem) ?_
    obtain ⟨htext, -⟩ := hasText_texts (h other (by simp [hmem]))
    exact Value.hasText_unique htext hname
  · rintro @⟨before, after, k, v, hk, hv, hafter⟩
    obtain ⟨hname, hvalue⟩ := hasText_texts (h (k, v) (by simp))
    refine ⟨before.map texts, after.map texts, ?_, fun e he => ?_⟩
    · rw [List.map_append, List.map_cons]
      congr 2
      exact Prod.ext (Value.hasText_unique hname hk) (Value.hasText_unique hvalue hv)
    · obtain ⟨other, hmem, rfl⟩ := List.mem_map.mp he
      rintro rfl
      exact hafter other hmem (hasText_texts (h other (by simp [hmem]))).1

theorem mapM_binding_eq_ok {entries : List (Value × Value)} {pairs : List (String × String)}
    (h : entries.mapM (binding block) = .ok pairs) :
    (∀ entry ∈ entries, ∃ pair, binding block entry = .ok pair) ∧ pairs = entries.map texts := by
  refine ⟨mapM_ok_iff.mp ⟨pairs, h⟩, ?_⟩
  have hpairs := mapM_eq_ok.mp h
  -- The induction is on the checks, which gives the texts entry by entry.
  clear h
  induction hpairs with
  | nil => rfl
  | @cons entry pair entries pairs hentry hrest ih =>
      obtain ⟨hname, hvalue⟩ := binding_eq_ok.mp hentry
      obtain ⟨hname', hvalue'⟩ := hasText_texts ⟨pair, hentry⟩
      rw [List.map_cons, ← ih]
      congr 1
      exact Prod.ext (Value.hasText_unique hname hname') (Value.hasText_unique hvalue hvalue')

theorem variablesOf_eq_ok {dict : Dict} (h : variablesOf block found = .ok dict) :
    Variables (found.getD .null) dict := by
  have hnull : Variables .null .empty := fun _ _ => ⟨fun h => (nomatch h), fun h => (nomatch h)⟩
  rcases found with _ | (_ | _ | _ | _ | _ | _ | entries | _)
  · exact Except.ok.inj h ▸ hnull
  · exact Except.ok.inj h ▸ hnull
  case some.mapping =>
    rw [variablesOf] at h
    cases hpairs : entries.mapM (binding block) with
    | error cause =>
        rw [hpairs] at h
        exact nomatch h
    | ok pairs =>
        obtain ⟨hall, rfl⟩ := mapM_binding_eq_ok hpairs
        rw [hpairs] at h
        exact Except.ok.inj h ▸ variables_ofList hall
  all_goals exact nomatch h

theorem variablesOf_failsWith : FailsWith (variablesOf block found) message ↔
    BlockFault block.key (found.getD .null) message := by
  have hshape := failsWith_kind (α := Dict) (v := found.getD .null) (m := message)
    (.blockShape block) fun _ => rfl
  have hnull : ¬ BlockFault block.key .null message := by
    rintro ⟨h, -, -⟩
    exact h rfl
  rcases found with _ | (_ | _ | _ | _ | _ | _ | entries | _)
  · exact ⟨fun h => absurd h not_failsWith_ok, fun h => absurd h hnull⟩
  · exact ⟨fun h => absurd h not_failsWith_ok, fun h => absurd h hnull⟩
  case some.mapping =>
    have hmap : FailsWith (variablesOf block (some (.mapping entries))) message ↔
        FailsWith (entries.mapM (binding block)) message := by
      rw [variablesOf]
      cases entries.mapM (binding block) with
      | error cause => exact failsWith_error.trans failsWith_error.symm
      | ok pairs => exact iff_of_false not_failsWith_ok not_failsWith_ok
    rw [hmap, failsWith_mapM]
    simp only [binding_failsWith, binding_ok_iff]
    constructor
    · rintro ⟨before, entry, after, rfl, hbefore, hentry⟩
      exact .entry hbefore hentry
    · rintro (⟨-, h, -⟩ | @⟨before, after, entry, message, hbefore, hentry⟩)
      · exact absurd rfl (h entries)
      · exact ⟨before, entry, after, rfl, hbefore, hentry⟩
  all_goals
    refine hshape.trans ⟨?_, ?_⟩
    · rintro ⟨kind, hkind, rfl⟩
      exact .shape nofun nofun hkind
    · rintro ⟨-, -, hkind⟩
      exact ⟨_, hkind, rfl⟩

/-! ### Whole values -/

theorem names_of_ancestorsOf {names : List String} (h : ancestorsOf found = .ok names) :
    Names (found.getD .null) names := (ancestorsOf_eq_ok.mp h).2

theorem isAncestry_of_ancestorsOf {names : List String} (h : ancestorsOf found = .ok names) :
    IsAncestry (found.getD .null) := ancestorsOf_ok_iff.mp ⟨names, h⟩

theorem isBlock_of_variablesOf {dict : Dict} (h : variablesOf block found = .ok dict) :
    IsBlock (found.getD .null) := variablesOf_ok_iff.mp ⟨dict, h⟩

/-- Three checks after each other. -/
theorem ofEntries_eq_ok {entries : List (Value × Value)} : ofEntries entries = .ok doc ↔
    ancestorsOf (Value.find? "extends" entries) = .ok doc.ancestors ∧
      variablesOf .locals (Value.find? "local" entries) = .ok doc.locals ∧
      variablesOf .exports (Value.find? "env" entries) = .ok doc.exports := by
  rw [ofEntries, bind_eq_ok]
  simp only [bind_eq_ok]
  constructor
  · rintro ⟨ancestors, hancestors, locals, hlocals, exports, hexports, hdoc⟩
    exact Except.ok.inj hdoc ▸ ⟨hancestors, hlocals, hexports⟩
  · rintro ⟨hancestors, hlocals, hexports⟩
    exact ⟨_, hancestors, _, hlocals, _, hexports, rfl⟩

theorem ofValue_ok_iff : (∃ doc, ofValue v = .ok doc) ↔ IsProfile v := by
  cases v with
  | null => exact ⟨fun _ => .null, fun _ => ⟨_, rfl⟩⟩
  | mapping entries =>
      simp only [ofValue, ofEntries_eq_ok]
      constructor
      · rintro ⟨doc, hancestors, hlocals, hexports⟩
        exact .mapping (field_iff.mpr rfl) (isAncestry_of_ancestorsOf hancestors)
          (field_iff.mpr rfl) (isBlock_of_variablesOf hlocals)
          (field_iff.mpr rfl) (isBlock_of_variablesOf hexports)
      · rintro (_ | ⟨hextends, hancestry, hlocal, hlocals, henv, hexports⟩)
        rw [← field_iff.mp hextends] at hancestry
        rw [← field_iff.mp hlocal] at hlocals
        rw [← field_iff.mp henv] at hexports
        obtain ⟨names, hnames⟩ := ancestorsOf_ok_iff.mpr hancestry
        obtain ⟨locals, hlocals⟩ := variablesOf_ok_iff.mpr hlocals
        obtain ⟨exports, hexports⟩ := variablesOf_ok_iff.mpr hexports
        exact ⟨⟨names, locals, exports⟩, hnames, hlocals, hexports⟩
  | bool _ | int _ | float _ | text _ | sequence _ | tagged _ _ =>
      exact ⟨fun ⟨_, h⟩ => (nomatch h), fun h => (nomatch h)⟩

theorem says_of_ofValue (h : ofValue v = .ok doc) : Says v doc := by
  have hnone : Variables .null .empty := fun _ _ => ⟨fun h => (nomatch h), fun h => (nomatch h)⟩
  cases v with
  | null => exact Except.ok.inj h ▸ .null .null hnone hnone
  | mapping entries =>
      obtain ⟨hancestors, hlocals, hexports⟩ := ofEntries_eq_ok.mp h
      exact .mapping (field_iff.mpr rfl) (names_of_ancestorsOf hancestors)
        (field_iff.mpr rfl) (variablesOf_eq_ok hlocals)
        (field_iff.mpr rfl) (variablesOf_eq_ok hexports)
  | bool _ | int _ | float _ | text _ | sequence _ | tagged _ _ => exact nomatch h

theorem ofEntries_failsWith {entries : List (Value × Value)} :
    FailsWith (ofEntries entries) message ↔ FirstFault (.mapping entries) message := by
  rw [ofEntries, failsWith_bind]
  simp only [failsWith_bind]
  constructor
  · -- Whichever check fails first, those before it have succeeded.
    rintro (h | ⟨names, hnames, h | ⟨locals, hlocals, h | ⟨_, _, h⟩⟩⟩)
    · exact .ancestors (field_iff.mpr rfl) (ancestorsOf_failsWith.mp h)
    · exact .locals (field_iff.mpr rfl) (isAncestry_of_ancestorsOf hnames)
        (field_iff.mpr rfl) (variablesOf_failsWith.mp h)
    · exact .exports (field_iff.mpr rfl) (isAncestry_of_ancestorsOf hnames)
        (field_iff.mpr rfl) (isBlock_of_variablesOf hlocals)
        (field_iff.mpr rfl) (variablesOf_failsWith.mp h)
    · exact absurd h not_failsWith_ok
  · rintro (⟨-, h, -⟩ | ⟨hextends, hfault⟩ | ⟨hextends, hancestry, hlocal, hfault⟩ |
      ⟨hextends, hancestry, hlocal, hlocals, henv, hfault⟩)
    · exact absurd rfl (h entries)
    · rw [← field_iff.mp hextends] at hfault
      exact .inl (ancestorsOf_failsWith.mpr hfault)
    · rw [← field_iff.mp hextends] at hancestry
      rw [← field_iff.mp hlocal] at hfault
      obtain ⟨names, hnames⟩ := ancestorsOf_ok_iff.mpr hancestry
      exact .inr ⟨names, hnames, .inl (variablesOf_failsWith.mpr hfault)⟩
    · rw [← field_iff.mp hextends] at hancestry
      rw [← field_iff.mp hlocal] at hlocals
      rw [← field_iff.mp henv] at hfault
      obtain ⟨names, hnames⟩ := ancestorsOf_ok_iff.mpr hancestry
      obtain ⟨locals, hlocals⟩ := variablesOf_ok_iff.mpr hlocals
      exact .inr ⟨names, hnames, .inr ⟨locals, hlocals, .inl (variablesOf_failsWith.mpr hfault)⟩⟩

theorem ofValue_failsWith : FailsWith (ofValue v) message ↔ FirstFault v message := by
  have hshape := failsWith_kind (α := Document) (v := v) (m := message) .rootShape fun _ => rfl
  cases v with
  | null =>
      refine iff_of_false not_failsWith_ok ?_
      rintro ⟨h, -, -⟩
      exact h rfl
  | mapping entries => exact ofEntries_failsWith
  | bool _ | int _ | float _ | text _ | sequence _ | tagged _ _ =>
      refine hshape.trans ⟨?_, ?_⟩
      · rintro ⟨kind, hkind, rfl⟩
        exact .root nofun nofun hkind
      · rintro ⟨-, -, hkind⟩
        exact ⟨_, hkind, rfl⟩

/-- What is read of a mapping depends on three of its parts only. -/
theorem ofValue_congr {entries others : List (Value × Value)}
    (h : ∀ field ∈ ["extends", "local", "env"], ∀ w, Field field others w ↔ Field field entries w) :
    ofValue (.mapping others) = ofValue (.mapping entries) := by
  -- What stands under a key is told without a look-up, so it is the same for both.
  have hfield : ∀ field ∈ ["extends", "local", "env"],
      (Value.find? field others).getD .null = (Value.find? field entries).getD .null :=
    fun field hmem => field_iff.mp ((h field hmem _).mpr (field_iff.mpr rfl))
  -- What is missing counts as a null, so that only what stands under a key matters.
  have hancestors : ∀ found, ancestorsOf found = ancestorsOf (some (found.getD .null)) := by
    rintro (_ | _) <;> rfl
  have hvariables : ∀ block found,
      variablesOf block found = variablesOf block (some (found.getD .null)) := by
    rintro block (_ | _) <;> rfl
  have hextends := hfield "extends" (by decide)
  have hlocal : (Value.find? Block.locals.key others).getD .null =
      (Value.find? Block.locals.key entries).getD .null := hfield "local" (by decide)
  have henv : (Value.find? Block.exports.key others).getD .null =
      (Value.find? Block.exports.key entries).getD .null := hfield "env" (by decide)
  rw [ofValue, ofValue, ofEntries, ofEntries, hancestors (Value.find? "extends" others), hextends,
    ← hancestors, hvariables .locals (Value.find? _ others), hlocal, ← hvariables,
    hvariables .exports (Value.find? _ others), henv, ← hvariables]

/-! ### Whole texts -/

/-- A text that is not blank is a profile exactly if its value is one, and says what the value says.
If it is none, then the first thing that is wrong with the value is reported of the text's key.
Parts of a mapping under other keys play no role. -/
theorem parse_of_read (key : String) {text : String} {v : Value} (hblank : isBlankText text = false)
    (hread : Yaml.read? text = some v) :
    ((∃ doc, parse key text = .ok doc) ↔ IsProfile v) ∧
    (∀ doc, parse key text = .ok doc → Says v doc) ∧
    (∀ message, FirstFault v message ↔
      ∃ cause, parse key text = .error (.unreadable key cause) ∧ cause.message = message) ∧
    (∀ fault, parse key text = .error fault → ∃ cause, fault = .unreadable key cause ∧
      fault.message = "failed to parse profile '" ++ key ++ "': " ++ cause.message) ∧
    ∀ entries others text', v = .mapping entries → isBlankText text' = false →
      Yaml.read? text' = some (.mapping others) →
      (∀ field ∈ ["extends", "local", "env"], ∀ w,
        Field field others w ↔ Field field entries w) →
      parse key text' = parse key text := by
  have htext : ∀ {text v}, isBlankText text = false → Yaml.read? text = some v →
      ofText text = ofValue v := by
    intro text v hblank hread
    rw [ofText, hblank, hread]
    rfl
  have hvalue := htext hblank hread
  refine ⟨?_, fun doc hdoc => ?_, fun message => ?_, fun fault hfault => ?_, ?_⟩
  · rw [← ofValue_ok_iff, ← hvalue]
    simp only [parse_eq_ok]
  · rw [parse_eq_ok, hvalue] at hdoc
    exact says_of_ofValue hdoc
  · rw [← ofValue_failsWith, ← hvalue]
    -- The fault carries the key of the text and what is wrong with the value.
    refine exists_congr fun cause => and_congr_left fun _ => ?_
    rw [parse_eq_error]
    simp only [ProfileFault.unreadable.injEq, true_and, exists_eq_right]
  · obtain ⟨cause, -, rfl⟩ := parse_eq_error.mp hfault
    exact ⟨cause, rfl, rfl⟩
  · rintro entries others text' rfl hblank' hread' hfields
    rw [parse, parse, hvalue, htext hblank' hread', ofValue_congr hfields]

/-- A block with two names of one text, below a key that plays no role. -/
def colliding : String := "note: [x]\nenv: \x7b1: a, '1': b\x7d\n"

/-- The number and the text are two keys of the mapping and one variable. The last value counts. -/
theorem parse_colliding :
    ∃ v, isBlankText colliding = false ∧ Yaml.read? colliding = some v ∧ IsProfile v ∧
      ∃ doc, parse "tool" colliding = .ok doc ∧ Says v doc ∧ doc.exports.get? "1" = some "b" := by
  have hblank : isBlankText colliding = false := by decide +kernel
  have hread : (Yaml.read? colliding).isSome = true := by decide +kernel
  have hexported : (parse "tool" colliding).toOption.bind (·.exports.get? "1") = some "b" := by
    decide +kernel
  obtain ⟨v, hread⟩ := Option.isSome_iff_exists.mp hread
  obtain ⟨hok, hsays, -⟩ := parse_of_read "tool" hblank hread
  cases hdoc : parse "tool" colliding with
  | error fault =>
      rw [hdoc] at hexported
      exact nomatch hexported
  | ok doc =>
      rw [hdoc] at hexported
      exact ⟨v, hblank, hread, hok.mp ⟨doc, hdoc⟩, doc, rfl, hsays doc hdoc, hexported⟩

end Document

end EnvProfiles
