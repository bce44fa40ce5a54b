import EnvProfiles.Decimal.Double
import Mathlib.Algebra.Order.Field.Power
import Mathlib.Algebra.Ring.Parity
import Mathlib.Data.Rat.Cast.Order
import Mathlib.Tactic.Linarith
import Mathlib.Tactic.Ring

/-!
# What a Number Is Read As

A number is read as the number of the format that is nearest to it, and of two
that are equally near as the one with the even mantissa. This is said here with
exact values and of all numbers of the format, and then by an interval: what is
read as a number lies between the middles of the way to its two neighbours.

The neighbour below is nearer than the one above if the mantissa is the least
one with 53 bits, since the numbers below are twice as dense.

## Main definitions

* `Double.value`: The value of a mantissa and an exponent.
* `Double.ReadAs`: A number is read as one of the format.
* `Double.stepBelow`: How far off the next number below is.

## Theorems

* `Double.Regular.value_cases`: There is no number between neighbours.
* `Double.Regular.readAs_iff`: What is read as a number.
-/

namespace EnvProfiles

namespace Double

/-- The value of a mantissa and an exponent. -/
def value (mantissa : ℕ) (exponent : ℤ) : ℚ := mantissa * 2 ^ exponent

/-- The mantissas and exponents of the format. There is no greatest exponent here, so that numbers
count as well that are too great for the format. -/
structure InFormat (mantissa : ℕ) (exponent : ℤ) : Prop where
  mantissa_lt : mantissa < 2 ^ 53
  least : -1074 ≤ exponent

/-- A number is read as one of the format: no other is nearer, and if another is as near, then the
mantissa is even. -/
structure ReadAs (q : ℚ) (mantissa : ℕ) (exponent : ℤ) : Prop where
  nearest : ∀ m e, InFormat m e → |q - value mantissa exponent| ≤ |q - value m e|
  even : ∀ m e, InFormat m e → |q - value mantissa exponent| = |q - value m e| →
    value m e = value mantissa exponent ∨ Even mantissa

/-- How far off the next number below is. -/
def stepBelow (mantissa : ℕ) (exponent : ℤ) : ℚ :=
  if mantissa = 2 ^ 52 ∧ -1074 < exponent then 2 ^ (exponent - 1) else 2 ^ exponent

variable {m n : ℕ} {e f : ℤ} {q r : ℚ}

theorem two_zpow_pos (e : ℤ) : (0 : ℚ) < 2 ^ e := zpow_pos (by norm_num) e

theorem two_zpow_pred (e : ℤ) : (2 : ℚ) ^ e = 2 * 2 ^ (e - 1) := by
  rw [← zpow_one_add₀ two_ne_zero]
  congr 1
  ring

theorem stepBelow_pos (m : ℕ) (e : ℤ) : 0 < stepBelow m e := by
  unfold stepBelow
  split <;> exact two_zpow_pos _

theorem stepBelow_le (m : ℕ) (e : ℤ) : stepBelow m e ≤ 2 ^ e := by
  have hpos := two_zpow_pos (e - 1)
  unfold stepBelow
  split
  · rw [two_zpow_pred e]
    linarith
  · exact le_rfl

namespace Regular

theorem inFormat (h : Regular m e) : InFormat m e := ⟨h.mantissa_lt, h.least⟩

/-- A number with a greater exponent is a multiple of the steps of a number. -/
theorem value_of_le (hle : e ≤ f) : value n f = value (n * 2 ^ (f - e).toNat) e := by
  have hsplit : (2 : ℚ) ^ f = 2 ^ (f - e).toNat * 2 ^ e := by
    rw [← zpow_natCast, Int.toNat_of_nonneg (by omega), ← zpow_add₀ two_ne_zero, sub_add_cancel]
  rw [value, value, hsplit]
  push_cast
  ring

theorem value_le_of_lt (hn : n < 2 ^ 53) (hlt : f < e) :
    value n f ≤ (2 ^ 53 - 1) * 2 ^ (e - 1) := by
  have hn' : (n : ℚ) ≤ 2 ^ 53 - 1 := by
    have hsucc : (n : ℚ) + 1 ≤ 2 ^ 53 := by exact_mod_cast hn
    linarith
  have hpow : (2 : ℚ) ^ f ≤ 2 ^ (e - 1) := zpow_le_zpow_right₀ (by norm_num) (by omega)
  exact mul_le_mul hn' hpow (two_zpow_pos f).le (by norm_num)

/-- There is no number between a number and its neighbours. -/
theorem value_cases (h : Regular m e) (hn : InFormat n f) :
    value n f ≤ value m e - stepBelow m e ∨ value n f = value m e ∨
      value m e + 2 ^ e ≤ value n f := by
  have hstep := two_zpow_pos e
  rcases le_or_gt e f with hle | hlt
  · -- Both are multiples of one step.
    rw [value_of_le hle]
    unfold value
    generalize n * 2 ^ (f - e).toNat = k
    rcases lt_trichotomy k m with hk | rfl | hk
    · left
      have hk' : (k : ℚ) + 1 ≤ m := by exact_mod_cast hk
      have hbelow := stepBelow_le m e
      nlinarith
    · exact .inr (.inl rfl)
    · right; right
      have hk' : (m : ℚ) + 1 ≤ k := by exact_mod_cast hk
      nlinarith
  · -- The other one has a smaller exponent, so that the mantissa of this one is full.
    left
    have hfull : 2 ^ 52 ≤ m := h.full.resolve_right fun hc => by
      have hleast := hn.least
      rw [hc] at hlt
      exact absurd hlt (by unfold leastExponent; omega)
    have hle := value_le_of_lt hn.mantissa_lt hlt
    have hpred := two_zpow_pred e
    have hpos := two_zpow_pos (e - 1)
    have hexp : -1074 < e := lt_of_le_of_lt hn.least hlt
    unfold stepBelow
    by_cases hm : m = 2 ^ 52
    · rw [if_pos ⟨hm, hexp⟩, value.eq_1 m, hm, hpred]
      push_cast
      linarith
    · rw [if_neg fun hc => hm hc.1]
      have hm' : (2 ^ 52 + 1 : ℚ) ≤ m := by
        have : 2 ^ 52 + 1 ≤ m := Nat.lt_of_le_of_ne hfull fun hc => hm hc.symm
        exact_mod_cast this
      rw [value.eq_1 m, hpred]
      nlinarith

/-- The next number above is in the format. -/
theorem exists_above (h : Regular m e) : ∃ n f, InFormat n f ∧ value n f = value m e + 2 ^ e := by
  have hlt : m < 2 ^ 53 := h.mantissa_lt
  by_cases hm : m + 1 < 2 ^ 53
  · refine ⟨m + 1, e, ⟨hm, h.least⟩, ?_⟩
    rw [value, value]
    push_cast
    ring
  · have hlast : m = 2 ^ 53 - 1 := by omega
    have hleast := h.least
    refine ⟨2 ^ 52, e + 1, ⟨by norm_num, by unfold leastExponent at hleast; omega⟩, ?_⟩
    rw [value, value, hlast, zpow_add_one₀ two_ne_zero]
    push_cast
    ring

/-- The next number below a positive one is in the format. -/
theorem exists_below (h : Regular m e) (hm : m ≠ 0) :
    ∃ n f, InFormat n f ∧ value n f = value m e - stepBelow m e := by
  unfold stepBelow
  split
  next hfull =>
    -- Below a power of two the places are half as great.
    refine ⟨2 ^ 53 - 1, e - 1, ⟨by norm_num, by omega⟩, ?_⟩
    rw [value, value, hfull.1, two_zpow_pred e]
    push_cast
    ring
  next =>
    refine ⟨m - 1, e, ⟨lt_of_le_of_lt (Nat.sub_le m 1) h.mantissa_lt, h.least⟩, ?_⟩
    rw [value, value, Nat.cast_sub (Nat.one_le_iff_ne_zero.mpr hm)]
    push_cast
    ring

/-- What is read as a number lies between the middles of the way to its neighbours, or right in a
middle if the mantissa is even. -/
theorem readAs_iff (h : Regular m e) (hm : m ≠ 0) : ReadAs q m e ↔
    value m e - stepBelow m e / 2 ≤ q ∧ q ≤ value m e + 2 ^ e / 2 ∧
      (Even m ∨ value m e - stepBelow m e / 2 ≠ q ∧ q ≠ value m e + 2 ^ e / 2) := by
  have hstep := two_zpow_pos e
  have hbelow := stepBelow_pos m e
  constructor
  · intro hread
    -- The neighbours of the number are in the format, so it is compared with them.
    obtain ⟨n, f, hn, hnext⟩ := h.exists_above
    obtain ⟨n', f', hn', hprev⟩ := h.exists_below hm
    have habove := hread.nearest n f hn
    have hunder := hread.nearest n' f' hn'
    have hevenAbove := hread.even n f hn
    have hevenBelow := hread.even n' f' hn'
    rw [hnext] at habove hevenAbove
    rw [hprev] at hunder hevenBelow
    refine ⟨?_, ?_, ?_⟩
    · by_contra hc
      rw [abs_of_nonpos (by linarith : q - value m e ≤ 0)] at hunder
      rcases abs_cases (q - (value m e - stepBelow m e)) with ⟨ha, _⟩ | ⟨ha, _⟩ <;> linarith
    · by_contra hc
      rw [abs_of_nonneg (by linarith : 0 ≤ q - value m e)] at habove
      rcases abs_cases (q - (value m e + 2 ^ e)) with ⟨ha, _⟩ | ⟨ha, _⟩ <;> linarith
    · by_contra hc
      obtain ⟨hodd, hmiddle⟩ := not_or.mp hc
      rcases not_and_or.mp hmiddle with heq | heq <;> rw [ne_eq, not_not] at heq
      · refine hodd ((hevenBelow ?_).resolve_left fun hsame => by linarith)
        rw [← heq, abs_of_nonpos (by linarith), abs_of_nonneg (by linarith)]
        ring
      · refine hodd ((hevenAbove ?_).resolve_left fun hsame => by linarith)
        rw [heq, abs_of_nonneg (by linarith), abs_of_nonpos (by linarith)]
        ring
  · rintro ⟨hlow, hhigh, hmiddle⟩
    -- The value that is compared lies on one side of the number or on the other.
    refine ⟨fun n f hn => ?_, fun n f hn hsame => ?_⟩
    · rcases h.value_cases hn with hc | hc | hc
      · rw [abs_of_nonneg (by linarith : 0 ≤ q - value n f)]
        exact abs_le.mpr ⟨by linarith, by linarith⟩
      · rw [hc]
      · rw [abs_of_nonpos (by linarith : q - value n f ≤ 0)]
        exact abs_le.mpr ⟨by linarith, by linarith⟩
    · rcases h.value_cases hn with hc | hc | hc
      · right
        refine hmiddle.resolve_right fun hne => hne.1 ?_
        rw [abs_of_nonneg (by linarith : 0 ≤ q - value n f)] at hsame
        rcases abs_cases (q - value m e) with ⟨ha, _⟩ | ⟨ha, _⟩ <;> linarith
      · exact .inl hc
      · right
        refine hmiddle.resolve_right fun hne => hne.2 ?_
        rw [abs_of_nonpos (by linarith : q - value n f ≤ 0)] at hsame
        rcases abs_cases (q - value m e) with ⟨ha, _⟩ | ⟨ha, _⟩ <;> linarith

/-- A number is read as itself. -/
theorem readAs_value (h : Regular m e) (hm : m ≠ 0) : ReadAs (value m e) m e := by
  have hstep := two_zpow_pos e
  have hbelow := stepBelow_pos m e
  exact (h.readAs_iff hm).mpr ⟨by linarith, by linarith,
    .inr ⟨fun hc => by linarith, fun hc => by linarith⟩⟩

/-- What lies between two numbers that are read as a number is read as this number. -/
theorem readAs_between (h : Regular m e) (hm : m ≠ 0) {s : ℚ} (hq : ReadAs q m e)
    (hr : ReadAs r m e) (hqs : q ≤ s) (hsr : s ≤ r) : ReadAs s m e := by
  obtain ⟨hlow, -, hq⟩ := (h.readAs_iff hm).mp hq
  obtain ⟨-, hhigh, hr⟩ := (h.readAs_iff hm).mp hr
  refine (h.readAs_iff hm).mpr ⟨hlow.trans hqs, hsr.trans hhigh, ?_⟩
  -- An end that is a middle is read as the number only if the mantissa is even.
  rcases hq with heven | ⟨hlow', -⟩
  · exact .inl heven
  · refine hr.imp_right fun hr => ⟨fun hc => hlow' ?_, fun hc => hr.2 ?_⟩
    · exact le_antisymm hlow (hc ▸ hqs)
    · exact le_antisymm hhigh (hc ▸ hsr)

/-- Nothing is read as a positive number but what is positive. -/
theorem readAs_pos (h : Regular m e) (hm : m ≠ 0) (hq : ReadAs q m e) : 0 < q := by
  obtain ⟨hlow, -, -⟩ := (h.readAs_iff hm).mp hq
  have hstep := two_zpow_pos e
  have hbelow := stepBelow_le m e
  have hm' : (1 : ℚ) ≤ m := by exact_mod_cast Nat.one_le_iff_ne_zero.mpr hm
  have hvalue : 2 ^ e ≤ value m e := by
    rw [value]
    nlinarith
  linarith

end Regular

end Double

end EnvProfiles
