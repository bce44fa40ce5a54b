import EnvProfiles.Proofs.Decimal.Grids
import EnvProfiles.Proofs.Decimal.Numerals
import Mathlib.Data.Nat.Prime.Basic
import Mathlib.Tactic.LinearCombination
import Mathlib.Tactic.NormNum.Prime

/-!
# The Shortest Decimal Form

A number is written with the fewest digits that are read as it, and among those
with the ones that are nearest to it; of two that are equally near it is the one
whose last digit is even. Here it is shown that these conditions determine the
digits, and that the digits that are written meet them.

The grids are tried from that of the first digit downwards, so on the coarser
ones there is no point that is read as the number. With fewer digits, or with as
many on another grid, a number stays below the power of ten of the first digit,
and that power itself is nearer then. The one case apart is the power of ten
above, which has more digits on the grid on which it is found than it needs.

## Main definitions

* `Shortest.IsShortest`: A number and a power of ten are the shortest form.

## Theorems

* `Shortest.IsShortest.unique`: There is only one shortest form.
* `Shortest.search_spec`: Where the search ends.
* `Shortest.isShortest_digits`: The digits that are written are the shortest
  form.
-/

namespace EnvProfiles

namespace Shortest

open Double

/-- The number `d * 10 ^ p` is the shortest decimal form of another: no number with fewer digits is
read as it, none with as many digits is nearer, and if one is as near then the last digit is
even. -/
structure IsShortest (m : ℕ) (e : ℤ) (d : ℕ) (p : ℤ) : Prop where
  reads : ReadAs (point d p) m e
  fewest : ∀ c j, ReadAs (point c j) m e → digitCount d ≤ digitCount c
  nearest : ∀ c j, ReadAs (point c j) m e → digitCount c = digitCount d →
    |value m e - point d p| ≤ |value m e - point c j|
  even : ∀ c j, ReadAs (point c j) m e → digitCount c = digitCount d →
    |value m e - point d p| = |value m e - point c j| → point c j = point d p ∨ Even d

variable {m n c d k : ℕ} {e p j l : ℤ} {x q r w : ℚ}

/-! ### Digits and powers of ten -/

theorem digitCount_le_iff (hk : 0 < k) : digitCount c ≤ k ↔ c < 10 ^ k :=
  Nat.length_toDigits_le_iff (by decide) hk

theorem digitCount_pos (c : ℕ) : 0 < digitCount c := Nat.length_toDigits_pos

theorem lt_pow_digitCount (c : ℕ) : c < 10 ^ digitCount c :=
  (digitCount_le_iff (digitCount_pos c)).mp le_rfl

theorem pow_le_of_digitCount (hc : c ≠ 0) : 10 ^ (digitCount c - 1) ≤ c :=
  (isNumeral_toDigits c).pow_length_le hc

theorem digitCount_eq (hlow : 10 ^ k ≤ c) (hhigh : c < 10 ^ (k + 1)) : digitCount c = k + 1 := by
  have hle : digitCount c ≤ k + 1 := (digitCount_le_iff k.succ_pos).mpr hhigh
  have hlt : k < digitCount c := by
    by_contra hc
    rcases Nat.eq_zero_or_pos k with rfl | hk
    · exact hc (digitCount_pos c)
    · exact absurd ((digitCount_le_iff hk).mp (Nat.le_of_not_lt hc)) (Nat.not_lt_of_le hlow)
  omega

theorem point_one (p : ℤ) : point 1 p = 10 ^ p := by rw [point, Nat.cast_one, one_mul]

/-- A point of a grid lies on the finer ones as well. -/
theorem point_of_le (hle : p ≤ j) : point c j = point (c * 10 ^ (j - p).toNat) p := by
  have hsplit : (10 : ℚ) ^ j = 10 ^ (j - p).toNat * 10 ^ p := by
    rw [← zpow_natCast, Int.toNat_of_nonneg (by omega), ← zpow_add₀ (by norm_num), sub_add_cancel]
  rw [point, point, hsplit]
  push_cast
  ring

/-- Numbers with few digits lie below a power of ten. -/
theorem point_lt (hc : c < 10 ^ k) (hle : j + k ≤ l) : point c j < 10 ^ l :=
  calc point c j < point (10 ^ k) j := by
        rw [← not_le, point_le_point, not_le]
        exact hc
    _ = 10 ^ (j + k) := by
        rw [point, Nat.cast_pow, Nat.cast_ofNat, ← zpow_natCast, ← zpow_add₀ (by norm_num),
          add_comm]
    _ ≤ 10 ^ l := zpow_le_zpow_right₀ (by norm_num) hle

theorem le_point (hc : 10 ^ k ≤ c) (hle : l ≤ j + k) : 10 ^ l ≤ point c j :=
  calc (10 : ℚ) ^ l ≤ 10 ^ (j + k) := zpow_le_zpow_right₀ (by norm_num) hle
    _ = point (10 ^ k) j := by
        rw [point, Nat.cast_pow, Nat.cast_ofNat, ← zpow_natCast, ← zpow_add₀ (by norm_num),
          add_comm]
    _ ≤ point c j := point_le_point.mpr hc

theorem point_ne_zero (h : Regular m e) (hm : m ≠ 0) (hc : ReadAs (point c p) m e) : c ≠ 0 := by
  rintro rfl
  have hpos := h.readAs_pos hm hc
  rw [point, Nat.cast_zero, zero_mul] at hpos
  exact lt_irrefl _ hpos

/-- What lies between two numbers that are equally far away is nearer. -/
theorem nearer_of_between (hsame : |x - q| = |x - r|) (hqw : q < w) (hwr : w < r) :
    |x - w| < |x - q| := by
  rcases abs_cases (x - q) with ⟨hq, _⟩ | ⟨hq, _⟩ <;>
    rcases abs_cases (x - r) with ⟨hr, _⟩ | ⟨hr, _⟩ <;> rw [hq, hr] at hsame <;>
      exact abs_lt.mpr ⟨by linarith, by linarith⟩

/-! ### The shortest form is unique -/

namespace IsShortest

variable (h : Regular m e) (hm : m ≠ 0) (hd : IsShortest m e d p) (hc : IsShortest m e c j)

include hd hc

theorem digitCount_eq : digitCount d = digitCount c :=
  Nat.le_antisymm (hd.fewest c j hc.reads) (hc.fewest d p hd.reads)

theorem distance_eq : |value m e - point d p| = |value m e - point c j| :=
  le_antisymm (hd.nearest c j hc.reads (hd.digitCount_eq hc).symm)
    (hc.nearest d p hd.reads (hd.digitCount_eq hc))

include h hm

/-- The power of ten that lies between would be shorter, or as short and nearer. -/
theorem not_exponent_lt : ¬ p < j := by
  intro hlt
  have hcount := hd.digitCount_eq hc
  have hpos := digitCount_pos d
  have hbelow : point d p < 10 ^ (p + digitCount d) := point_lt (lt_pow_digitCount d) le_rfl
  have habove : 10 ^ (p + digitCount d) ≤ point c j :=
    le_point (pow_le_of_digitCount (point_ne_zero h hm hc.reads)) (by omega)
  rw [← point_one] at hbelow habove
  -- The power of ten lies between two numbers that are read as this one.
  have hreads : ReadAs (point 1 (p + digitCount d)) m e :=
    h.readAs_between hm hd.reads hc.reads hbelow.le habove
  have hone : digitCount 1 = digitCount d :=
    Nat.le_antisymm hpos (hd.fewest _ _ hreads)
  rcases habove.lt_or_eq with hless | hsame
  · exact absurd (hd.nearest _ _ hreads hone)
      (nearer_of_between (hd.distance_eq hc) hbelow hless).not_ge
  · -- The other number is the power of ten, and its only digit is odd.
    have hvalue : c = 1 := by
      have hle : (10 : ℚ) ^ (p + digitCount d) ≤ 10 ^ j :=
        zpow_le_zpow_right₀ (by norm_num) (by rw [← hone]; exact hlt)
      have hten := ten_zpow_pos j
      have hnonzero := Nat.one_le_iff_ne_zero.mpr (point_ne_zero h hm hc.reads)
      rw [point_one] at hsame
      have hcle : point c j ≤ point 1 j := by rwa [point_one, ← hsame]
      exact Nat.le_antisymm (point_le_point.mp hcle) hnonzero
    rcases hc.even d p hd.reads hcount (hd.distance_eq hc).symm with hequal | heven
    · exact absurd hequal (hbelow.trans_le habove).ne
    · exact absurd (hvalue ▸ heven) (by decide)

/-- On one grid, one of two points that are equally near is odd, or there is one between. -/
theorem not_lt (hsame : p = j) : ¬ d < c := by
  subst hsame
  intro hlt
  have hcount := hd.digitCount_eq hc
  have hdistance := hd.distance_eq hc
  have hne : ∀ {a b : ℕ}, a < b → point a p < point b p := fun hab => by
    rw [← not_le, point_le_point, not_le]
    exact hab
  have hdeven := (hd.even c p hc.reads hcount.symm hdistance).resolve_left (hne hlt).ne'
  have hceven := (hc.even d p hd.reads hcount hdistance.symm).resolve_left (hne hlt).ne
  -- Both digits are even, so they are not next to each other.
  have hgap : d + 1 < c := by
    refine Nat.lt_of_le_of_ne hlt fun hnext => ?_
    rw [← hnext, Nat.even_add_one] at hceven
    exact hceven hdeven
  have hreads : ReadAs (point (d + 1) p) m e :=
    h.readAs_between hm hd.reads hc.reads (hne d.lt_succ_self).le (hne hgap).le
  have hbetween : digitCount (d + 1) = digitCount d := by
    refine Nat.le_antisymm ?_ (hd.fewest _ _ hreads)
    rw [hcount, digitCount_le_iff (digitCount_pos c)]
    exact hgap.trans (lt_pow_digitCount c)
  exact absurd (hd.nearest _ _ hreads hbetween)
    (nearer_of_between hdistance (hne d.lt_succ_self) (hne hgap)).not_ge

/-- There is only one shortest form. -/
theorem unique : d = c ∧ p = j := by
  have hexponent : p = j :=
    le_antisymm (le_of_not_gt (hc.not_exponent_lt h hm hd))
      (le_of_not_gt (hd.not_exponent_lt h hm hc))
  exact ⟨Nat.le_antisymm (Nat.not_lt.mp (hc.not_lt h hm hd hexponent.symm))
    (Nat.not_lt.mp (hd.not_lt h hm hc hexponent)), hexponent⟩

end IsShortest

/-! ### The search -/

/-- The power of ten of the first digit. -/
structure IsLead (m : ℕ) (e l : ℤ) : Prop where
  le : 10 ^ l ≤ value m e
  lt : value m e < 10 ^ (l + 1)

theorem scaled_eq (m k : ℕ) (e : ℤ) : ((m * twoTo e.toNat * tenTo k : ℕ) : ℚ) =
    value m e * 10 ^ k * (twoTo (-e).toNat : ℕ) := by
  have htwo := zpow_mul_pow (two_ne_zero (α := ℚ)) e
  push_cast
  rw [value, ← htwo]
  ring

theorem twoTo_le_tenTo (hn : n ≤ 16 * k) : twoTo n ≤ tenTo (5 * k) :=
  calc 2 ^ n ≤ 2 ^ (16 * k) := Nat.pow_le_pow_right (by decide) hn
    _ = (2 ^ 16) ^ k := Nat.pow_mul 2 16 k
    _ ≤ (10 ^ 5) ^ k := Nat.pow_le_pow_left (by decide) k
    _ = 10 ^ (5 * k) := (Nat.pow_mul 10 5 k).symm

theorem isLead_leadingPower (h : Regular m e) (hm : m ≠ 0) : IsLead m e (leadingPower m e) := by
  have hden := twoTo_pos (-e).toNat
  generalize hscaled : m * twoTo e.toNat * tenTo 340 / twoTo (-e).toNat = scaled
  have hlead : leadingPower m e = (digitCount scaled : ℤ) - 341 := by rw [← hscaled]; rfl
  -- The least number of the format is not below `10 ^ (-340)`.
  have hne : scaled ≠ 0 := by
    rw [← hscaled]
    refine Nat.div_ne_zero_iff.mpr ⟨hden.ne', ?_⟩
    have hleast := h.least
    unfold leastExponent at hleast
    calc twoTo (-e).toNat ≤ 1 * 1 * tenTo (5 * 68) := by
          rw [one_mul, one_mul]
          exact twoTo_le_tenTo (by omega)
      _ ≤ m * twoTo e.toNat * tenTo 340 :=
        Nat.mul_le_mul_right _ (Nat.mul_le_mul (Nat.one_le_iff_ne_zero.mpr hm) (twoTo_pos _))
  have hdenq : (0 : ℚ) < (twoTo (-e).toNat : ℕ) := by exact_mod_cast hden
  -- The quotient is the scaled number up to what was left over.
  have hlow : (scaled : ℚ) ≤ value m e * 10 ^ 340 := by
    have hle := Nat.div_mul_le_self (m * twoTo e.toNat * tenTo 340) (twoTo (-e).toNat)
    rw [hscaled, ← Nat.cast_le (α := ℚ), scaled_eq, Nat.cast_mul] at hle
    exact le_of_mul_le_mul_right hle hdenq
  have hhigh : value m e * 10 ^ 340 < (scaled + 1 : ℕ) := by
    have hlt := Nat.lt_div_mul_add (a := m * twoTo e.toNat * tenTo 340) hden
    rw [hscaled, ← Nat.succ_mul, ← Nat.cast_lt (α := ℚ), scaled_eq, Nat.cast_mul] at hlt
    exact lt_of_mul_lt_mul_right hlt hdenq.le
  have hcount := digitCount_pos scaled
  have hfactor : (0 : ℚ) < 10 ^ 340 := pow_pos (by norm_num) _
  have hpower : ∀ k : ℕ, (10 : ℚ) ^ ((k : ℤ) - 340) * 10 ^ 340 = (10 ^ k : ℕ) := fun k => by
    rw [← zpow_natCast (10 : ℚ) 340, ← zpow_add₀ (by norm_num), Nat.cast_pow, ← zpow_natCast]
    congr 1
    omega
  refine ⟨le_of_mul_le_mul_right ?_ hfactor, lt_of_mul_lt_mul_right ?_ hfactor.le⟩
  · rw [hlead,
      show (digitCount scaled : ℤ) - 341 = ((digitCount scaled - 1 : ℕ) : ℤ) - 340 by omega, hpower]
    exact le_trans (by exact_mod_cast pow_le_of_digitCount hne) hlow
  · rw [hlead, show (digitCount scaled : ℤ) - 341 + 1 = (digitCount scaled : ℤ) - 340 by omega,
      hpower]
    exact hhigh.trans_le (by exact_mod_cast lt_pow_digitCount scaled)

/-- The search goes down to a grid with a point that is read as the number, and to no finer one. -/
theorem search_spec (h : Regular m e) (hm : m ≠ 0) (n : ℕ) (l : ℤ)
    (hfine : onGrid? m e (l - n) ≠ none) (hs : search m e (n + 1) l = (d, p)) :
    p ≤ l ∧ NearestPoint m e p d ∧ ∀ j, p < j → j ≤ l → ∀ c, ¬ ReadAs (point c j) m e := by
  induction n generalizing l with
  | zero =>
      rw [search] at hs
      rw [Int.natCast_zero, sub_zero] at hfine
      obtain ⟨found, hfound⟩ := Option.ne_none_iff_exists'.mp hfine
      rw [hfound] at hs
      obtain ⟨rfl, rfl⟩ := Prod.mk.inj hs
      exact ⟨le_rfl, onGrid?_eq_some h hm hfound, fun j hlt hle => absurd hle (by omega)⟩
  | succ n ih =>
      rw [search] at hs
      split at hs
      next found hfound =>
        obtain ⟨rfl, rfl⟩ := Prod.mk.inj hs
        exact ⟨le_rfl, onGrid?_eq_some h hm hfound, fun j hlt hle => absurd hle (by omega)⟩
      next hnone =>
        rw [Nat.cast_succ, add_comm, ← sub_sub] at hfine
        obtain ⟨hle, hnearest, hcoarser⟩ := ih (l - 1) hfine hs
        refine ⟨by omega, hnearest, fun j hlt hjl => ?_⟩
        rcases hjl.lt_or_eq with hless | rfl
        · exact hcoarser j hlt (by omega)
        · exact (onGrid?_eq_none h hm).mp hnone

/-- Seventeen digits suffice. -/
theorem onGrid?_seventeen (h : Regular m e) (hm : m ≠ 0) (hl : IsLead m e l) :
    onGrid? m e (l - (17 : ℕ)) ≠ none := by
  refine onGrid?_ne_none h hm ?_
  -- The digits after the first sixteen count for less than half a place of the mantissa.
  have hvalue : value m e < 2 ^ 53 * 2 ^ e :=
    mul_lt_mul_of_pos_right (by exact_mod_cast h.mantissa_lt) (two_zpow_pos e)
  have hpred := two_zpow_pred e
  have hpos := two_zpow_pos (e - 1)
  have hten : (10 : ℚ) ^ l = 10 ^ 17 * 10 ^ (l - (17 : ℕ)) := by
    rw [← zpow_natCast (10 : ℚ) 17, ← zpow_add₀ (by norm_num)]
    congr 1
    omega
  have hle := hl.le
  rw [hten] at hle
  nlinarith

/-! ### The shortest form exists -/

/-- What the search finds below the power of ten of the first digit. -/
structure Found (m : ℕ) (e l p : ℤ) (d : ℕ) : Prop where
  lead : IsLead m e l
  le : p ≤ l
  nearestPoint : NearestPoint m e p d
  coarser : ∀ j, p < j → j ≤ l → ∀ c, ¬ ReadAs (point c j) m e

namespace Found

variable (h : Regular m e) (hm : m ≠ 0) (hf : Found m e l p d)

include hf

/-- There is nothing on the coarser grids, above the power of ten of the first digit neither. -/
theorem not_reads_of_lt (hlt : p < l) (hj : p < j) : ¬ ReadAs (point c j) m e := by
  rcases le_or_gt j l with hle | hgt
  · exact hf.coarser j hj hle c
  · rw [point_of_le hgt.le]
    exact hf.coarser l hlt le_rfl _

theorem point_lead : point (10 ^ (l - p).toNat) p = 10 ^ l := by
  rw [← point_one, point_of_le hf.le, one_mul]

theorem point_lead_succ : point (10 ^ ((l - p).toNat + 1)) p = 10 ^ (l + 1) := by
  have hle := hf.le
  rw [← point_one, point_of_le (by omega : p ≤ l + 1), one_mul]
  congr 2
  omega

/-- If the power of ten above is found, it is on the grid of the first digit. -/
theorem eq_of_pow (hd : d = 10 ^ ((l - p).toNat + 1)) : p = l := by
  by_contra hne
  have hlt : p < l := lt_of_le_of_ne hf.le hne
  have hreads := hf.nearestPoint.reads
  rw [hd, hf.point_lead_succ, ← point_one] at hreads
  exact hf.not_reads_of_lt hlt (by omega : p < l + 1) hreads

include h hm

/-- No point between that of the number and the number is read as the number. -/
theorem not_between (hc : point d p < point c p ∧ point c p ≤ value m e ∨
    point c p < point d p ∧ value m e ≤ point c p) : False := by
  have hself := h.readAs_value hm
  have hreads := hf.nearestPoint.reads
  rcases hc with ⟨hlt, hle⟩ | ⟨hlt, hle⟩
  · -- It would be read as the number, since it lies between two numbers that are, and be nearer.
    have hnear := hf.nearestPoint.nearest c (h.readAs_between hm hreads hself hlt.le hle)
    rw [abs_of_nonneg (by linarith), abs_of_nonneg (by linarith)] at hnear
    linarith
  · have hnear := hf.nearestPoint.nearest c (h.readAs_between hm hself hreads hle hlt.le)
    rw [abs_of_nonpos (by linarith), abs_of_nonpos (by linarith)] at hnear
    linarith

theorem pow_le : 10 ^ (l - p).toNat ≤ d := by
  by_contra hc
  have hlt : point d p < point (10 ^ (l - p).toNat) p := by
    rw [← not_le, point_le_point]
    exact hc
  exact hf.not_between h hm (.inl ⟨hlt, hf.point_lead ▸ hf.lead.le⟩)

theorem le_pow : d ≤ 10 ^ ((l - p).toNat + 1) := by
  by_contra hc
  have hlt : point (10 ^ ((l - p).toNat + 1)) p < point d p := by
    rw [← not_le, point_le_point]
    exact hc
  exact hf.not_between h hm (.inr ⟨hlt, hf.point_lead_succ ▸ hf.lead.lt.le⟩)

/-- A number that has no more digits lies on the grid, or the power of ten of the first digit is
nearer than it. -/
theorem onGrid_or_lead (hreads : ReadAs (point c j) m e) (hc : c < 10 ^ ((l - p).toNat + 1)) :
    (∃ b, point c j = point b p) ∨
      ReadAs (10 ^ l) m e ∧ |value m e - 10 ^ l| < |value m e - point c j| := by
  rcases le_or_gt p j with hle | hlt
  · exact .inl ⟨_, point_of_le hle⟩
  · have hle := hf.le
    have hbelow : point c j < 10 ^ l := point_lt hc (by omega)
    have hlead := hf.lead.le
    refine .inr ⟨h.readAs_between hm hreads (h.readAs_value hm) hbelow.le hlead, ?_⟩
    rw [abs_of_nonneg (by linarith), abs_of_nonneg (by linarith)]
    linarith

theorem nearest (hreads : ReadAs (point c j) m e) (hc : c < 10 ^ ((l - p).toNat + 1)) :
    |value m e - point d p| ≤ |value m e - point c j| := by
  rcases hf.onGrid_or_lead h hm hreads hc with ⟨b, hb⟩ | ⟨hlead, hless⟩
  · rw [hb] at hreads ⊢
    exact hf.nearestPoint.nearest b hreads
  · rw [← hf.point_lead] at hlead hless
    exact (hf.nearestPoint.nearest _ hlead).trans hless.le

theorem tie (hreads : ReadAs (point c j) m e) (hc : c < 10 ^ ((l - p).toNat + 1))
    (hsame : |value m e - point d p| = |value m e - point c j|) :
    ∃ b, point c j = point b p ∧ (b = d ∨ Even d) := by
  rcases hf.onGrid_or_lead h hm hreads hc with ⟨b, hb⟩ | ⟨hlead, hless⟩
  · rw [hb] at hreads hsame
    exact ⟨b, hb, hf.nearestPoint.even b hreads hsame⟩
  · rw [← hf.point_lead] at hlead hless
    exact absurd ((hf.nearestPoint.nearest _ hlead).trans_lt hless) (hsame ▸ lt_irrefl _)

/-- The digits are the shortest form if there are as many as the power of the first one tells. -/
theorem isShortest (hlt : d < 10 ^ ((l - p).toNat + 1)) : IsShortest m e d p := by
  have hcount := digitCount_eq (hf.pow_le h hm) hlt
  have hfew : ∀ {c}, digitCount c = digitCount d → c < 10 ^ ((l - p).toNat + 1) := fun hc => by
    rw [← hcount, ← hc]
    exact lt_pow_digitCount _
  refine ⟨hf.nearestPoint.reads, fun c j hreads => ?_, fun c j hreads hc => ?_,
    fun c j hreads hc hsame => ?_⟩
  · by_contra hless
    have hpos := digitCount_pos c
    -- Fewer digits lie on a coarser grid, or below the power of ten of the first digit.
    have hpl : p < l := by have := hf.le; omega
    rcases le_or_gt j p with hle | hgt
    · have hbelow : point c j < 10 ^ l := point_lt (lt_pow_digitCount c) (by omega)
      rw [← point_one] at hbelow
      exact hf.not_reads_of_lt hpl hpl
        (h.readAs_between hm hreads (h.readAs_value hm) hbelow.le (point_one l ▸ hf.lead.le))
    · exact hf.not_reads_of_lt hpl hgt hreads
  · exact hf.nearest h hm hreads (hfew hc)
  · obtain ⟨b, hb, hb'⟩ := hf.tie h hm hreads (hfew hc) hsame
    exact hb'.imp_left fun hbd => by rw [hb, hbd]

end Found

/-- No number of the format lies halfway between nine and ten times a power of ten that are both
read as it: it would have too few bits. -/
theorem not_halfway (h : Regular m e) (hm : m ≠ 0) (hnine : ReadAs (point 9 l) m e)
    (hten : ReadAs (point 10 l) m e) : 2 * value m e ≠ 19 * 10 ^ l := by
  intro hsame
  have hgap : (10 : ℚ) ^ l ≤ 2 ^ e := by
    obtain ⟨hlow, -, -⟩ := (h.readAs_iff hm).mp hnine
    obtain ⟨-, hhigh, -⟩ := (h.readAs_iff hm).mp hten
    have hbelow := stepBelow_le m e
    rw [point] at hlow hhigh
    push_cast at hlow hhigh
    linarith
  have hpos := two_zpow_pos e
  -- The step of the mantissa is at least the power of ten, so the mantissa is small.
  have hsmall : m ≤ 9 := by
    have hlt : (m : ℚ) < 10 := by
      rw [value] at hsame
      by_contra hc
      have hc := not_lt.mp hc
      nlinarith
    have hlt' : m < 10 := by exact_mod_cast hlt
    omega
  have hexponent : e = -1074 := by
    refine h.full.resolve_left fun hc => ?_
    have hbig : 10 ≤ twoTo 52 := by decide
    omega
  -- Scaled, the equation is one of whole numbers, and nineteen divides only one of its sides.
  have hnegative : l < 0 := by
    by_contra hc
    have hone : (1 : ℚ) ≤ 10 ^ l := one_le_zpow₀ (by norm_num) (not_lt.mp hc)
    have hhalf : (2 : ℚ) ^ e ≤ 2 ^ (-1 : ℤ) := zpow_le_zpow_right₀ (by norm_num) (by omega)
    rw [zpow_neg_one] at hhalf
    linarith
  have hscaled : 2 * m * 10 ^ (-l).toNat = 19 * 2 ^ (-e).toNat := by
    have hl := zpow_mul_pow (show (10 : ℚ) ≠ 0 by norm_num) l
    have he := zpow_mul_pow (two_ne_zero (α := ℚ)) e
    rw [show l.toNat = 0 by omega, pow_zero] at hl
    rw [show e.toNat = 0 by omega, pow_zero] at he
    rw [value] at hsame
    rw [← Nat.cast_inj (R := ℚ)]
    push_cast
    linear_combination (10 ^ (-l).toNat * 2 ^ (-e).toNat) * hsame -
      (2 * m * 10 ^ (-l).toNat) * he + (19 * 2 ^ (-e).toNat) * hl
  have hdvd : 19 ∣ 2 * m * 10 ^ (-l).toNat := ⟨_, hscaled⟩
  have hprime : Nat.Prime 19 := by norm_num
  rcases hprime.dvd_mul.mp hdvd with hdvd | hdvd
  · have hle := Nat.le_of_dvd (by omega) ((hprime.dvd_mul.mp hdvd).resolve_left (by decide))
    omega
  · exact absurd (hprime.dvd_of_dvd_pow hdvd) (by decide)

/-- The power of ten above a number is its shortest form if it is found. -/
theorem Found.isShortest_one (h : Regular m e) (hm : m ≠ 0) (hf : Found m e l l 10) :
    IsShortest m e 1 (l + 1) := by
  have hvalue : point 1 (l + 1) = point 10 l := by
    rw [point_of_le (by omega : l ≤ l + 1), show (l + 1 - l).toNat = 1 by omega]
    rfl
  have hfew : ∀ {c}, digitCount c = digitCount 1 → c < 10 ^ ((l - l).toNat + 1) := fun hc => by
    have hone : digitCount 1 = 1 := by decide
    rw [sub_self, Int.toNat_zero, zero_add, ← hone, ← hc]
    exact lt_pow_digitCount _
  refine ⟨hvalue ▸ hf.nearestPoint.reads, fun c j _ => ?_, fun c j hreads hc => ?_,
    fun c j hreads hc hsame => .inl ?_⟩
  · exact (show digitCount 1 = 1 by decide) ▸ digitCount_pos c
  · rw [hvalue]
    exact hf.nearest h hm hreads (hfew hc)
  · rw [hvalue] at hsame ⊢
    obtain ⟨b, hb, -⟩ := hf.tie h hm hreads (hfew hc) hsame
    rw [hb] at hreads hsame ⊢
    by_contra hne
    -- The other point is the next one below, and the number is right between the two.
    have hlt : value m e < point 10 l := hvalue ▸ point_one (l + 1) ▸ hf.lead.lt
    have hbelow : point b l < point 10 l := by
      refine lt_of_le_of_ne (le_of_not_gt fun habove => ?_) hne
      rw [abs_of_neg (by linarith), abs_of_neg (by linarith)] at hsame
      linarith
    have hnine : b = 9 := by
      have hlast : b ≤ 9 := Nat.le_of_lt_succ (by rwa [← not_le, point_le_point, not_le] at hbelow)
      refine (Nat.lt_or_eq_of_le hlast).resolve_left fun hless => ?_
      have hlow : point b l < point 9 l := by
        rw [← not_le, point_le_point, not_le]
        exact hless
      have hhigh : point 9 l < point 10 l := by
        rw [← not_le, point_le_point]
        decide
      have hread := h.readAs_between hm hreads hf.nearestPoint.reads hlow.le hhigh.le
      exact absurd (hf.nearestPoint.nearest 9 hread)
        (hsame ▸ nearer_of_between hsame.symm hlow hhigh).not_ge
    subst hnine
    refine not_halfway h hm hreads hf.nearestPoint.reads ?_
    have hleft : |value m e - point 9 l| = value m e - point 9 l := by
      refine abs_of_nonneg (le_of_not_gt fun hless => ?_)
      rw [abs_of_neg (by linarith), abs_of_neg (by linarith)] at hsame
      linarith
    rw [hleft, abs_of_neg (by linarith), point, point] at hsame
    push_cast at hsame
    linarith

/-! ### The digits -/

/-- The zeros at the end are left out. -/
def kept (d : ℕ) : List Char := ((Nat.toDigits 10 d).reverse.dropWhile (· == '0')).reverse

theorem kept_eq (hd : d % 10 ≠ 0) : kept d = Nat.toDigits 10 d := by
  -- The last digit is the remainder, which is not zero.
  have hlast : ∃ ds, Nat.toDigits 10 d = ds ++ [(d % 10).digitChar] := by
    rcases Nat.lt_or_ge d 10 with hlt | hge
    · exact ⟨[], by rw [Nat.toDigits_of_lt_base hlt, Nat.mod_eq_of_lt hlt, List.nil_append]⟩
    · exact ⟨_, Nat.toDigits_of_base_le (by decide) hge⟩
  obtain ⟨ds, hds⟩ := hlast
  have hdigit : ((d % 10).digitChar == '0') = false :=
    beq_eq_false_iff_ne.mpr fun hc => hd (Nat.digitChar_eq_zero.mp hc)
  rw [kept, hds, List.reverse_append, List.reverse_singleton, List.singleton_append,
    List.dropWhile_cons_of_neg (by rw [hdigit]; decide), List.reverse_cons, List.reverse_reverse]

/-- The digits that are written, and the power of ten of the first one, are the shortest form. -/
theorem isShortest_digits (h : Regular m e) (hm : m ≠ 0) :
    ∃ d, Nat.toDigits 10 d = (digits m e).1 ∧
      IsShortest m e d ((digits m e).2 + 1 - (digits m e).1.length) := by
  obtain ⟨⟨d, p⟩, hsearch⟩ : ∃ r, search m e 18 (leadingPower m e) = r := ⟨_, rfl⟩
  have hlead := isLead_leadingPower h hm
  obtain ⟨hle, hnearest, hcoarser⟩ :=
    search_spec h hm 17 (leadingPower m e) (onGrid?_seventeen h hm hlead) hsearch
  have hf : Found m e (leadingPower m e) p d := ⟨hlead, hle, hnearest, hcoarser⟩
  have hdigits : digits m e = (kept d, p + (Nat.toDigits 10 d).length - 1) := by
    rw [digits, hsearch]
    rfl
  rw [hdigits]
  rcases (hf.le_pow h hm).lt_or_eq with hlt | hpow
  · have hkept : kept d = Nat.toDigits 10 d := by
      refine kept_eq fun hzero => ?_
      -- A zero at the end would belong to a coarser grid.
      have hne := point_ne_zero h hm hnearest.reads
      rcases hle.lt_or_eq with hpl | hpl
      · have hten : point d p = point (d / 10) (p + 1) := by
          rw [point_of_le (by omega : p ≤ p + 1), show (p + 1 - p).toNat = 1 by omega, pow_one,
            Nat.div_mul_cancel (Nat.dvd_of_mod_eq_zero hzero)]
        exact hcoarser (p + 1) (by omega) (by omega) _ (hten ▸ hnearest.reads)
      · rw [hpl, sub_self] at hlt
        have hlt : d < 10 := hlt
        omega
    refine ⟨d, hkept.symm, ?_⟩
    rw [hkept, sub_add_cancel, add_sub_cancel_right]
    exact hf.isShortest h hm hlt
  · -- The point above all digits is the next power of ten, which is written as one digit.
    have hexponent := hf.eq_of_pow hpow
    rw [← hexponent] at hf hpow
    rw [sub_self] at hpow
    have hten : d = 10 := hpow
    subst hten
    refine ⟨1, show Nat.toDigits 10 1 = kept 10 by decide, ?_⟩
    rw [show kept 10 = ['1'] by decide, show (Nat.toDigits 10 10).length = 2 by decide]
    have hone := hf.isShortest_one h hm
    rwa [show p + (2 : ℕ) - 1 + 1 - (['1'].length : ℕ) = p + 1 by rw [List.length_singleton]; omega]

end Shortest

end EnvProfiles
