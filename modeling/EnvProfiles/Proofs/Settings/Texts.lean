import EnvProfiles.Proofs.Settings.Calls
import EnvProfiles.Proofs.Settings.VariableNames
import EnvProfiles.Settings.Effective

/-!
# Texts in Variables

What becomes of a text that is meant for an option which is a text, when it is
set outright and when it comes in a variable of the environment. Set outright it
is the option. A variable is read first: if it can be a truth value or a number,
that is what it says, and where a text is asked for, the value is written as a
text again. So the option is the text only if the text is written as the value
is.

This is so for texts that are read as nothing else, and for whole numbers
without a sign for plus and without zeros in front. It is not so for `007`,
which comes to `7`, nor for `1e3`, `+1` or `TRUE`. A text that does not begin as
a number does is safe, unless it is one of five words.

## Main definitions

* `SettingKey.IsText`: The options that are texts.
* `Settings.withText`: The settings in which one of them is set.
* `Loader.variableText`: What comes of a text in a variable.
* `Loader.Verbatim`: A text that is written as its value is.
* `Loader.OnlyVariable`: An environment in which one variable belongs to the
  settings.

## Theorems

* `Loader.variableText_eq_iff`: Which texts come through.
* `Loader.int?_toString`: A whole number is read back as it is written.
* `LoaderCall.build_set`, `LoaderCall.build_variable`: What either way comes to.
* `LoaderCall.build_text`: When the two are the same.
-/

namespace EnvProfiles

/-- The option is a text. -/
def SettingKey.IsText (k : SettingKey) : Prop := k ≠ .logLevel ∧ k ≠ .logFileLevel

instance (k : SettingKey) : Decidable k.IsText := inferInstanceAs (Decidable (_ ∧ _))

/-- The settings in which one option, which is a text, has been set. -/
def Settings.withText (k : SettingKey) (text : String) : Settings :=
  match k with
  | .storePath => { standard with store := ⟨some text⟩ }
  | .outdir => { standard with transfer := { standard.transfer with outdir := text } }
  | .extension => { standard with transfer := { standard.transfer with extension := text } }
  | .editorCommand => { standard with editor := ⟨some text⟩ }
  | .logFile => { standard with log := { standard.log with file := some text } }
  | .logLevel => standard
  | .logFileLevel => standard

theorem Settings.withText_inj {k : SettingKey} (hk : k.IsText) {text other : String} :
    withText k text = withText k other ↔ text = other := by
  refine ⟨fun h => ?_, fun h => h ▸ rfl⟩
  have hoption : (withText k text).get k = (withText k other).get k := by rw [h]
  cases k with
  | storePath | editorCommand | logFile => exact Option.some.inj hoption
  | outdir | extension => exact hoption
  | logLevel => exact absurd rfl hk.1
  | logFileLevel => exact absurd rfl hk.2

/-- What stands alone under an option comes to the settings in which its text is set. -/
theorem Settings.ofSetting?_assign {k : SettingKey} (hk : k.IsText) {value : Setting}
    {text : String} (h : value.text? = some text) :
    ofSetting? (k.path.assign value (.table [])) = some (withText k text) := by
  -- A single value is laid as it is, and only an option that is a text is asked for its text.
  cases value with
  | bool _ | int _ | float _ | text _ =>
      obtain rfl := Option.some.inj h
      cases k with
      | logLevel => exact absurd rfl hk.1
      | logFileLevel => exact absurd rfl hk.2
      | _ => rfl
  | nothing | array _ | table _ => exact nomatch h

/-! ### What comes of a text in a variable -/

namespace Loader

/-- What comes of a text in a variable where a text is asked for. -/
def variableText (text : String) : String := (variableValue text).text?.getD ""

theorem fits_of_int? {cs : List Char} {n : Int} (h : int? cs = some n) :
    fitsSigned 64 n = true := by
  unfold int? at h
  dsimp only at h
  rw [Option.ite_none_left_eq_some] at h
  obtain ⟨hfits, hvalue⟩ := h
  simp only [Bool.or_eq_true, Bool.not_eq_true', not_or, Bool.not_eq_false] at hfits
  exact Option.some.inj hvalue ▸ hfits.2

/-- What a variable says is a single value. -/
theorem variableValue_cases (text : String) :
    (∃ b, variableValue text = .bool b) ∨
      (∃ n, fitsSigned 64 n = true ∧ variableValue text = .int n) ∨
      (∃ x, variableValue text = .float x) ∨ variableValue text = .text text := by
  unfold variableValue
  dsimp only
  split
  · exact .inl ⟨_, rfl⟩
  · split
    · exact .inl ⟨_, rfl⟩
    · split
      next n hn => exact .inr (.inl ⟨n, fits_of_int? hn, rfl⟩)
      next =>
        split
        · exact .inr (.inr (.inl ⟨_, rfl⟩))
        · exact .inr (.inr (.inr rfl))

theorem text?_variableValue (text : String) :
    (variableValue text).text? = some (variableText text) := by
  rw [variableText]
  rcases variableValue_cases text with ⟨b, h⟩ | ⟨n, _, h⟩ | ⟨x, h⟩ | h <;> rw [h] <;> rfl

/-! A whole number -/

theorem value_toDigits (n : Nat) : Literal.value (Nat.toDigits 10 n) = n := by
  have hvalue : ∀ digits : List Char, Literal.value digits = Nat.ofDigitChars 10 digits 0 := by
    intro digits
    simp only [Literal.value, Nat.ofDigitChars, Nat.mul_comm]
  rw [hvalue, Nat.ofDigitChars_toDigits (by decide) (by decide)]

theorem isDigit_toDigits (n : Nat) : (Nat.toDigits 10 n).all Char.isDigit = true :=
  List.all_eq_true.mpr fun _ hc => Nat.isDigit_of_mem_toDigits (by decide) (by decide) hc

/-- Digits have no sign. -/
theorem sign_of_digits {cs : List Char} (h : cs.all Char.isDigit = true) :
    Literal.sign cs = (false, cs) := by
  unfold Literal.sign
  split
  next r => exact absurd (List.all_eq_true.mp h '-' List.mem_cons_self) (by decide)
  next r => exact absurd (List.all_eq_true.mp h '+' List.mem_cons_self) (by decide)
  next => rfl

/-- A whole number is read back as it is written. -/
theorem int?_toString {n : Int} (h : fitsSigned 64 n = true) :
    int? (toString n).toList = some n := by
  have hempty : ∀ m, (Nat.toDigits 10 m).isEmpty = false := fun m =>
    List.isEmpty_eq_false_iff.mpr Nat.toDigits_ne_nil
  cases n with
  | ofNat m =>
      have htext : (toString (Int.ofNat m)).toList = Nat.toDigits 10 m := Nat.toList_repr
      rw [int?, htext, sign_of_digits (isDigit_toDigits m)]
      simp only [value_toDigits, hempty, isDigit_toDigits, Bool.false_eq_true, if_false]
      exact if_neg (by simpa using h)
  | negSucc m =>
      have htext : (toString (Int.negSucc m)).toList = '-' :: Nat.toDigits 10 (m + 1) := by
        show ("-" ++ (m + 1).repr).toList = _
        rw [String.toList_append, Nat.toList_repr]
        rfl
      rw [int?, htext]
      have hvalue : -((m + 1 : Nat) : Int) = Int.negSucc m := rfl
      simp only [Literal.sign, value_toDigits, hempty, isDigit_toDigits, if_true, hvalue]
      exact if_neg (by simp [h])

/-- Characters before the letters have no lower case. -/
theorem lowerLetter_of_lt {c : Char} (h : c.toNat < 0x41) : lowerLetter c = c := by
  -- All runs of letters begin no earlier than the first capital letter.
  have hruns : ∀ run ∈ lowerRuns, 0x41 ≤ run.1 := by decide +kernel
  unfold lowerLetter
  dsimp only
  split
  next first last step target hfound =>
    have hfirst := hruns _ (List.mem_of_find?_eq_some hfound)
    have hrange := List.find?_some hfound
    simp only [Bool.and_eq_true, decide_eq_true_eq] at hrange
    omega
  next => rfl

/-- A text that begins before the letters is no word for a truth value. -/
theorem lowerCase_ne_of_lt {text : String} {c : Char} {r : List Char} (htext : text.toList = c :: r)
    (h : c.toNat < 0x41) : lowerCase text ≠ "true" ∧ lowerCase text ≠ "false" := by
  have hne : ∀ other : Char, 0x41 ≤ other.toNat → c ≠ other := fun other hother hc => by
    rw [hc] at h
    omega
  -- The first character stays, and neither word begins with it.
  have hhead : (lowerCase text).toList.head? = some c := by
    rw [lowerCase, String.toList_ofList, htext, lowerAfter,
      if_neg fun hc => hne 'İ' (by decide) (beq_iff_eq.mp hc),
      if_neg fun hc => hne 'Σ' (by decide) (beq_iff_eq.mp hc), lowerLetter_of_lt h]
    rfl
  constructor <;> intro hc <;> rw [hc] at hhead
  · exact hne 't' (by decide) (Option.some.inj hhead).symm
  · exact hne 'f' (by decide) (Option.some.inj hhead).symm

/-- What is no word for a truth value and is read as a whole number says that number. -/
theorem variableValue_of_int {text : String} {n : Int} (htrue : lowerCase text ≠ "true")
    (hfalse : lowerCase text ≠ "false") (hint : int? text.toList = some n) :
    variableValue text = .int n := by
  rw [variableValue, if_neg fun hc => htrue (beq_iff_eq.mp hc),
    if_neg fun hc => hfalse (beq_iff_eq.mp hc), hint]

/-- A whole number begins with a digit or with its sign. -/
theorem exists_head_toString (n : Int) :
    ∃ c r, (toString n).toList = c :: r ∧ c.toNat < 0x41 := by
  cases n with
  | ofNat m =>
      obtain ⟨c, r, hdigits⟩ := List.exists_cons_of_ne_nil (Nat.toDigits_ne_nil (n := m) (b := 10))
      refine ⟨c, r, Nat.toList_repr.trans hdigits, ?_⟩
      have hdigit := List.all_eq_true.mp (isDigit_toDigits m) c (hdigits ▸ List.mem_cons_self)
      simp only [Char.isDigit, Bool.and_eq_true, decide_eq_true_eq] at hdigit
      exact Nat.lt_of_le_of_lt (UInt32.le_iff_toNat_le.mp hdigit.2) (by decide)
  | negSucc m =>
      exact ⟨'-', _, by show ("-" ++ (m + 1).repr).toList = _; rw [String.toList_append]; rfl,
        by decide⟩

/-- A whole number of 64 bits in its plain spelling says that number. -/
theorem variableValue_toString {n : Int} (h : fitsSigned 64 n = true) :
    variableValue (toString n) = .int n := by
  obtain ⟨c, r, htext, hc⟩ := exists_head_toString n
  obtain ⟨htrue, hfalse⟩ := lowerCase_ne_of_lt htext hc
  exact variableValue_of_int htrue hfalse (int?_toString h)

/-- A text that is written as its value is: a truth value, a whole number, another number, or a text
that is read as nothing else. -/
inductive Verbatim (text : String) : Prop
  | truth : text = "true" ∨ text = "false" → Verbatim text
  | int {n : Int} : fitsSigned 64 n = true → text = toString n → Verbatim text
  | float {x : Double} : variableValue text = .float x → text = x.text Setting.floatLayout →
    Verbatim text
  | text : variableValue text = .text text → Verbatim text

/-- Which texts come through. -/
theorem variableText_eq_iff {text : String} : variableText text = text ↔ Verbatim text := by
  constructor
  · intro h
    rw [variableText] at h
    rcases variableValue_cases text with ⟨b, hb⟩ | ⟨n, hfits, hn⟩ | ⟨x, hx⟩ | htext
    · rw [hb] at h
      cases b with
      | true => exact .truth (.inl h.symm)
      | false => exact .truth (.inr h.symm)
    · rw [hn] at h
      exact .int hfits h.symm
    · rw [hx] at h
      exact .float hx h.symm
    · exact .text htext
  · rintro (⟨rfl | rfl⟩ | ⟨hfits, rfl⟩ | ⟨hx, htext⟩ | htext)
    · decide +kernel
    · decide +kernel
    · rw [variableText, variableValue_toString hfits]
      rfl
    · rw [variableText, hx]
      exact htext.symm
    · rw [variableText, htext]
      rfl

/-- A word that is read as a truth value or as a number without digits, in any case of letters. -/
def IsSpelled (text : String) : Prop :=
  lowerCase text ∈ ["true", "false"] ∨
    String.ofList (text.toList.map Char.toLower) ∈ ["inf", "infinity", "nan"]

instance (text : String) : Decidable (IsSpelled text) := inferInstanceAs (Decidable (_ ∨ _))

/-- A text that begins neither with a digit nor with a sign or a point says itself, unless it is one
of five words. -/
theorem variableValue_of_head {text : String} {c : Char} {r : List Char}
    (htext : text.toList = c :: r) (hdigit : c.isDigit = false) (hmark : c ∉ ['+', '-', '.'])
    (hspelled : ¬ IsSpelled text) : variableValue text = .text text := by
  simp only [List.mem_cons, List.not_mem_nil, or_false, not_or] at hmark
  obtain ⟨hplus, hminus, hpoint⟩ := hmark
  -- What begins neither with a sign nor with a digit is no whole number.
  have hsign : Literal.sign text.toList = (false, text.toList) := by
    rw [htext, Literal.sign]
    · exact fun _ hc => hminus (List.cons.inj hc).1
    · exact fun _ hc => hplus (List.cons.inj hc).1
  have hint : int? text.toList = none := by
    rw [int?, hsign]
    simp [htext, hdigit]
  rw [IsSpelled, not_or] at hspelled
  simp only [List.mem_cons, List.not_mem_nil, or_false, not_or] at hspelled
  obtain ⟨⟨htrue, hfalse⟩, hinf, hinfinity, hnan⟩ := hspelled
  have hfraction : Literal.fraction (c :: r) = ([], c :: r) := by
    rw [Literal.fraction]
    exact fun _ hc => hpoint (List.cons.inj hc).1
  -- Without a digit before the point and without a point there is nothing to read.
  have hnumber : Literal.number? false text.toList = none := by
    rw [Literal.number?, htext, List.takeWhile_cons_of_neg (by simp [hdigit]),
      List.dropWhile_cons_of_neg (by simp [hdigit]), hfraction]
    rfl
  have hfloat : Double.ofText? text.toList = none := by
    rw [Double.ofText?, hsign]
    simp [hinf, hinfinity, hnan, hnumber]
  rw [variableValue, if_neg fun hc => htrue (beq_iff_eq.mp hc),
    if_neg fun hc => hfalse (beq_iff_eq.mp hc), hint, hfloat]

/-! ### Environments -/

/-- An environment in which one variable belongs to the settings, that of an option. -/
structure OnlyVariable (start : String) (environment : Dict) (k : SettingKey) (text : String) :
    Prop where
  holds : environment.get? (start ++ "__" ++ k.variableName) = some text
  only : ∀ e ∈ environment.toList, e.1 ≠ start ++ "__" ++ k.variableName →
    variableKey? start e.1 = none

/-- Steps that change nothing come to nothing. -/
theorem foldl_same {α β : Type} {step : β → α → β} {l : List α} {b : β}
    (h : ∀ a ∈ l, ∀ b, step b a = b) : l.foldl step b = b := by
  induction l generalizing b with
  | nil => rfl
  | cons a l ih =>
      rw [List.foldl_cons, h a List.mem_cons_self]
      exact ih fun a ha => h a (List.mem_cons_of_mem _ ha)

/-- The only variable is laid over its option. -/
theorem OnlyVariable.assignVariables_eq {start text : String} {environment : Dict} {k : SettingKey}
    (h : OnlyVariable start environment k text) (root : Setting) :
    assignVariables root start environment = k.path.assign (variableValue text) root := by
  obtain ⟨before, after, hlist⟩ := List.append_of_mem (Dict.mem_of_lookup h.holds)
  have hascending := environment.ascending
  rw [hlist, List.pairwise_append, List.pairwise_cons] at hascending
  obtain ⟨_, ⟨hafter, _⟩, hbefore⟩ := hascending
  have hmem : ∀ e, e ∈ before ∨ e ∈ after → e ∈ environment.toList := by
    intro e he
    rw [Dict.toList, hlist, List.mem_append, List.mem_cons]
    exact he.imp_right .inr
  -- The names of the others are smaller or greater, so they are not that of the variable.
  have hbefore' : ∀ e ∈ before, variableKey? start e.1 = none := fun e he =>
    h.only e (hmem e (.inl he)) (String.ne_of_lt (hbefore e he _ List.mem_cons_self))
  have hafter' : ∀ e ∈ after, variableKey? start e.1 = none := fun e he =>
    h.only e (hmem e (.inr he)) (String.ne_of_lt (hafter e he)).symm
  rw [assignVariables, Dict.toList, hlist, List.foldl_append, List.foldl_cons,
    foldl_same fun e he root => by rw [hafter' e he],
    foldl_same fun e he root => by rw [hbefore' e he], variableKey?_variableName]
  dsimp only
  rw [assignKey_eq, pathOf_text]

end Loader

namespace LoaderCall

variable {k : SettingKey} {start text : String} {environment : Dict}

/-- A text that is set outright is the option. -/
theorem build_set (hk : k.IsText) (text : String) (fs : FileSystem) (environment : Dict) :
    build [.set k (.text text)] fs environment = .ok (Settings.withText k text) := by
  have hloader : loader [.set k (.text text)] = .ok ⟨[], none, [(k.path, .text text)]⟩ := by
    rw [loader, List.foldlM_cons, run, Loader.set?, SettingKey.ofText?_text]
    rfl
  have hvalues : Loader.values? ⟨[], none, [(k.path, .text text)]⟩ fs environment =
      some (k.path.assign (.text text) (.table [])) := rfl
  rw [build, hloader]
  change Loader.load _ fs environment = _
  rw [Loader.load, hvalues, Option.bind_some, Settings.ofSetting?_assign hk rfl]

/-- A text in a variable is read first. -/
theorem build_variable (hk : k.IsText) (fs : FileSystem)
    (h : Loader.OnlyVariable start environment k text) :
    build [.withVariables start] fs environment =
      .ok (Settings.withText k (Loader.variableText text)) := by
  have hvalues : Loader.values? ⟨[], some start, []⟩ fs environment =
      some (Loader.assignVariables (.table []) start environment) := rfl
  change Loader.load ⟨[], some start, []⟩ fs environment = _
  rw [Loader.load, hvalues, Option.bind_some, h.assignVariables_eq,
    Settings.ofSetting?_assign hk (Loader.text?_variableValue text)]

/-- What a text comes to as an option, set outright and in a variable. Set outright it is the
option. In a variable it is the option exactly if it is written as the value is that it is read as,
and then the settings are the same as a whole. This is so for every text that begins neither with a
digit nor with a sign or a point, unless it is one of five words. -/
theorem build_text (hk : k.IsText) (fs : FileSystem) (other : Dict)
    (h : Loader.OnlyVariable start environment k text) :
    let told := build [.withVariables start] fs environment
    let set := build [.set k (.text text)] fs other
    set = .ok (Settings.withText k text) ∧
    told = .ok (Settings.withText k (Loader.variableText text)) ∧
    (told = set ↔ Loader.Verbatim text) ∧
    (∀ c r, text.toList = c :: r → c.isDigit = false → c ∉ ['+', '-', '.'] →
      ¬ Loader.IsSpelled text → told = set) ∧
    (k = .storePath → ∀ home, set.map (·.storePath home) = .ok text ∧
      told.map (·.storePath home) = .ok (Loader.variableText text)) := by
  intro told set
  have hset : set = .ok (Settings.withText k text) := build_set hk text fs other
  have htold : told = .ok (Settings.withText k (Loader.variableText text)) :=
    build_variable hk fs h
  have hsame : told = set ↔ Loader.Verbatim text := by
    rw [hset, htold, Except.ok.injEq, Settings.withText_inj hk, Loader.variableText_eq_iff]
  refine ⟨hset, htold, hsame, fun c r htext hdigit hmark hspelled => ?_, fun hpath home => ?_⟩
  · exact hsame.mpr (.text (Loader.variableValue_of_head htext hdigit hmark hspelled))
  · rw [hset, htold, hpath]
    exact ⟨rfl, rfl⟩

/-- An environment that names the home directory, and a database. -/
def homeAndPath (path : String) : Dict :=
  .ofList [("HOME", "/home"), ("DENV__STORE__PATH", path)]

/-- A path that begins with a slash names the same database either way. -/
theorem build_text_slash :
    Loader.OnlyVariable "DENV" (homeAndPath "/tmp/x.db") .storePath "/tmp/x.db" ∧
    build [.withVariables "DENV"] .fresh (homeAndPath "/tmp/x.db") =
      build [.set .storePath (.text "/tmp/x.db")] .fresh .empty := by
  have honly : Loader.OnlyVariable "DENV" (homeAndPath "/tmp/x.db") .storePath "/tmp/x.db" :=
    ⟨by decide +kernel, by decide +kernel⟩
  obtain ⟨_, _, _, hhead, _⟩ := build_text (k := .storePath) (by decide) .fresh .empty honly
  exact ⟨honly, hhead '/' "tmp/x.db".toList (by decide) (by decide) (by decide) (by decide +kernel)⟩

/-- A path of digits with zeros in front names one database on the command line and another one in
the environment. -/
theorem build_zeros :
    (build [.set .storePath (.text "007")] .fresh .empty).map (·.storePath "/home") = .ok "007" ∧
    (build [.withVariables "DENV"] .fresh (homeAndPath "007")).map (·.storePath "/home") =
      .ok "7" := by
  exact ⟨by decide +kernel, by decide +kernel⟩

end LoaderCall

end EnvProfiles
