import Mathlib.Algebra.Order.Ring.Nat

/-!
# Decimal Numerals

The digits of a number, and the number that digits make. Digits of one length
make each number below a power of ten once, so digits without zeros in front are
determined by the number they make.

## Main definitions

* `AllDigits`: Digits, with zeros in front or without.
* `IsNumeral`: The numeral of a number.
* `IsSigned`: The numeral of a whole number that may be negative.

## Theorems

* `ofDigitChars_lt`, `le_ofDigitChars`: How large a number of some digits is.
* `ofDigitChars_injective`: Digits of one length that make one number are the
  same.
* `isNumeral_iff`, `isSigned_iff`: The only numeral is the one that is written.
-/

namespace EnvProfiles

/-- Digits, with zeros in front or without. -/
def AllDigits (ds : List Char) : Prop := ∀ c ∈ ds, c.isDigit = true

variable {ds es : List Char} {c d : Char} {n : ℕ}

theorem AllDigits.tail (h : AllDigits (c :: ds)) : AllDigits ds :=
  fun d hd => h d (List.mem_cons_of_mem c hd)

/-- The value of a digit. -/
def digitValue (c : Char) : ℕ := c.toNat - '0'.toNat

theorem toNat_of_isDigit (h : c.isDigit = true) : 48 ≤ c.toNat ∧ c.toNat ≤ 57 := by
  rw [Char.isDigit, Bool.and_eq_true, decide_eq_true_iff, decide_eq_true_iff] at h
  exact h

theorem digitValue_le (h : c.isDigit = true) : digitValue c ≤ 9 := by
  have hrange := toNat_of_isDigit h
  have hzero : '0'.toNat = 48 := rfl
  unfold digitValue
  omega

theorem digitValue_pos (h : c.isDigit = true) (hne : c ≠ '0') : 1 ≤ digitValue c := by
  have hrange := toNat_of_isDigit h
  have hzero : '0'.toNat = 48 := rfl
  have hdiffers : c.toNat ≠ 48 := fun hc => hne (Char.toNat_inj.mp (hc.trans hzero.symm))
  unfold digitValue
  omega

theorem digitValue_injective (hc : c.isDigit = true) (hd : d.isDigit = true)
    (h : digitValue c = digitValue d) : c = d := by
  have hrange := toNat_of_isDigit hc
  have hrange' := toNat_of_isDigit hd
  have hzero : '0'.toNat = 48 := rfl
  unfold digitValue at h
  exact Char.toNat_inj.mp (by omega)

theorem ofDigitChars_cons (c : Char) (ds : List Char) :
    Nat.ofDigitChars 10 (c :: ds) 0 = 10 ^ ds.length * digitValue c + Nat.ofDigitChars 10 ds 0 := by
  rw [Nat.ofDigitChars_cons, Nat.ofDigitChars_eq_ofDigitChars_zero, Nat.mul_zero, Nat.zero_add,
    digitValue]

/-- Digits make a number that has no more digits. -/
theorem ofDigitChars_lt (h : AllDigits ds) : Nat.ofDigitChars 10 ds 0 < 10 ^ ds.length := by
  induction ds with
  | nil => exact Nat.one_pos
  | cons c ds ih =>
      have hrest := ih h.tail
      have hfirst : 10 ^ ds.length * digitValue c ≤ 10 ^ ds.length * 9 :=
        Nat.mul_le_mul_left _ (digitValue_le (h c List.mem_cons_self))
      rw [ofDigitChars_cons, List.length_cons, Nat.pow_succ]
      omega

/-- They make one that has as many digits, if there is no zero in front. -/
theorem le_ofDigitChars (h : AllDigits (c :: ds)) (hne : c ≠ '0') :
    10 ^ ds.length ≤ Nat.ofDigitChars 10 (c :: ds) 0 := by
  rw [ofDigitChars_cons]
  exact Nat.le_trans (Nat.le_mul_of_pos_right _ (digitValue_pos (h c List.mem_cons_self) hne))
    (Nat.le_add_right _ _)

/-- Digits of one length that make one number are the same. -/
theorem ofDigitChars_injective (hds : AllDigits ds) (hes : AllDigits es)
    (hlength : ds.length = es.length)
    (h : Nat.ofDigitChars 10 ds 0 = Nat.ofDigitChars 10 es 0) : ds = es := by
  induction ds generalizing es with
  | nil => exact (List.length_eq_zero_iff.mp hlength.symm).symm
  | cons c ds ih =>
      cases es with
      | nil => exact nomatch hlength
      | cons d es =>
          have hlength : ds.length = es.length := Nat.succ.inj hlength
          have hpos : 0 < 10 ^ es.length := Nat.pow_pos (by decide)
          have hdlt := ofDigitChars_lt hds.tail
          have helt := ofDigitChars_lt hes.tail
          rw [ofDigitChars_cons, ofDigitChars_cons, hlength] at h
          rw [hlength] at hdlt
          -- The first digit is the quotient by a power of ten, and the others are what is left.
          have hquotient := congrArg (· / 10 ^ es.length) h
          have hleft := congrArg (· % 10 ^ es.length) h
          simp only [Nat.mul_add_div hpos, Nat.div_eq_of_lt hdlt, Nat.div_eq_of_lt helt,
            Nat.add_zero] at hquotient
          simp only [Nat.mul_add_mod, Nat.mod_eq_of_lt hdlt, Nat.mod_eq_of_lt helt] at hleft
          rw [digitValue_injective (hds c List.mem_cons_self) (hes d List.mem_cons_self) hquotient,
            ih hds.tail hes.tail hlength hleft]

/-! ### Numerals -/

/-- The numeral of a number: its digits, with no zeros in front. -/
structure IsNumeral (n : ℕ) (ds : List Char) : Prop where
  allDigits : AllDigits ds
  value : Nat.ofDigitChars 10 ds 0 = n
  ne_nil : ds ≠ []
  first : ds.head? = some '0' → ds = ['0']

theorem allDigits_toDigits (n : ℕ) : AllDigits (Nat.toDigits 10 n) :=
  fun _ hc => Nat.isDigit_of_mem_toDigits (by decide) (by decide) hc

theorem head?_toDigits (hn : n ≠ 0) : (Nat.toDigits 10 n).head? ≠ some '0' := by
  induction n using Nat.strongRecOn with
  | ind n ih =>
      rcases Nat.lt_or_ge n 10 with hlt | hge
      · rw [Nat.toDigits_of_lt_base hlt]
        exact fun hc => hn (Nat.digitChar_eq_zero.mp (Option.some.inj hc))
      · -- The digits begin with those of the quotient by ten, which is not zero.
        rw [Nat.toDigits_of_base_le (by decide) hge,
          List.head?_append, Option.or_of_isSome (List.isSome_head?.mpr Nat.toDigits_ne_nil)]
        exact ih (n / 10) (by omega) (by omega)

theorem isNumeral_toDigits (n : ℕ) : IsNumeral n (Nat.toDigits 10 n) where
  allDigits := allDigits_toDigits n
  value := Nat.ofDigitChars_ten_toDigits
  ne_nil := Nat.toDigits_ne_nil
  first h := by
    by_cases hn : n = 0
    · rw [hn, Nat.toDigits_zero]
    · exact absurd h (head?_toDigits hn)

/-- How many digits a numeral has. -/
theorem IsNumeral.pow_length_le (h : IsNumeral n ds) (hn : n ≠ 0) : 10 ^ (ds.length - 1) ≤ n := by
  cases ds with
  | nil => exact absurd rfl h.ne_nil
  | cons c ds =>
      have hne : c ≠ '0' := by
        rintro rfl
        obtain ⟨-, rfl⟩ := List.cons.inj (h.first rfl)
        exact hn h.value.symm
      rw [← h.value]
      exact le_ofDigitChars h.allDigits hne

theorem IsNumeral.lt_pow_length (h : IsNumeral n ds) : n < 10 ^ ds.length := by
  rw [← h.value]
  exact ofDigitChars_lt h.allDigits

/-- There is no other numeral of a number than the one that is written. -/
theorem isNumeral_iff : IsNumeral n ds ↔ Nat.toDigits 10 n = ds := by
  refine ⟨fun h => ?_, fun h => h ▸ isNumeral_toDigits n⟩
  have hother := isNumeral_toDigits n
  by_cases hn : n = 0
  · subst hn
    cases ds with
    | nil => exact absurd rfl h.ne_nil
    | cons c ds =>
        -- Without a zero in front the value would be positive.
        have hzero : c = '0' := by
          by_contra hne
          have hlow := le_ofDigitChars h.allDigits hne
          rw [h.value] at hlow
          exact absurd hlow (Nat.not_le_of_gt (Nat.pow_pos (by decide)))
        rw [h.first (congrArg some hzero), Nat.toDigits_zero]
  · -- Both have as many digits as the number.
    have hlength : (Nat.toDigits 10 n).length = ds.length := by
      have hlow := (Nat.pow_lt_pow_iff_right (by decide : 1 < 10)).mp
        (Nat.lt_of_le_of_lt (hother.pow_length_le hn) h.lt_pow_length)
      have hhigh := (Nat.pow_lt_pow_iff_right (by decide : 1 < 10)).mp
        (Nat.lt_of_le_of_lt (h.pow_length_le hn) hother.lt_pow_length)
      have hpos := List.length_pos_iff.mpr h.ne_nil
      have hpos' := List.length_pos_iff.mpr hother.ne_nil
      omega
    exact ofDigitChars_injective hother.allDigits h.allDigits hlength
      (hother.value.trans h.value.symm)

/-- The numeral of a whole number, with a minus sign if the number is negative. -/
inductive IsSigned : ℤ → List Char → Prop
  | nonneg {n : ℕ} {ds : List Char} : IsNumeral n ds → IsSigned n ds
  | negative {n : ℕ} {ds : List Char} : n ≠ 0 → IsNumeral n ds → IsSigned (-n) ('-' :: ds)

theorem isSigned_iff {z : ℤ} : IsSigned z ds ↔ (toString z).toList = ds := by
  cases z with
  | ofNat n =>
      have htext : (toString (Int.ofNat n)).toList = Nat.toDigits 10 n := Nat.toList_repr
      rw [htext, ← isNumeral_iff]
      constructor
      · generalize hz : Int.ofNat n = z
        rintro (h | ⟨hm, h⟩)
        · exact Int.ofNat.inj hz ▸ h
        · exact absurd hz (by rw [Int.ofNat_eq_natCast]; omega)
      · exact .nonneg
  | negSucc n =>
      have htext : (toString (Int.negSucc n)).toList = '-' :: Nat.toDigits 10 (n + 1) := by
        change ("-" ++ (n + 1).repr).toList = _
        rw [String.toList_append, Nat.toList_repr]
        rfl
      rw [htext]
      constructor
      · generalize hz : Int.negSucc n = z
        rintro (h | @⟨m, es, -, h⟩)
        · exact nomatch hz
        · have hm : n + 1 = m := by omega
          rw [hm, isNumeral_iff.mp h]
      · rintro rfl
        exact .negative n.succ_ne_zero (isNumeral_toDigits (n + 1))

end EnvProfiles
