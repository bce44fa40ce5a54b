import EnvProfiles.Decimal.Shortest
import EnvProfiles.Proofs.Decimal.Nearest

/-!
# Points of Decimal Grids

The points of a decimal grid are the multiples of a power of ten. Here it is told
which of them are read as a number, and which of these is nearest to it.

What is read as a number fills an interval around it. So of the points on one
side of the number only the last one before it need be looked at: if any point on
that side is read as the number, this one is. Numbers and points are scaled by a
common factor when they are compared, so that all of them are whole numbers.

## Main definitions

* `Shortest.point`: A point of a grid.
* `Shortest.NearestPoint`: The point of a grid that a number is written as.

## Theorems

* `Shortest.reads_iff`: Which points are read as a number.
* `Shortest.onGrid?_eq_some`, `Shortest.onGrid?_eq_none`: What is found on a grid.
* `Shortest.onGrid?_ne_none`: A grid that is fine enough has such a point.
-/

namespace EnvProfiles

namespace Shortest

open Double

/-- The point of a number on the grid of a power of ten. -/
def point (d : ℕ) (power : ℤ) : ℚ := d * 10 ^ power

variable {m n c d : ℕ} {e p : ℤ}

theorem ten_zpow_pos (p : ℤ) : (0 : ℚ) < 10 ^ p := zpow_pos (by norm_num) p

theorem point_le_point : point c p ≤ point d p ↔ c ≤ d := by
  rw [point, point, mul_le_mul_iff_of_pos_right (ten_zpow_pos p), Nat.cast_le]

theorem point_succ (d : ℕ) (p : ℤ) : point (d + 1) p = point d p + 10 ^ p := by
  rw [point, point]
  push_cast
  ring

/-! ### Scaling -/

/-- The factor by which numbers and points are scaled. -/
def scale (e p : ℤ) : ℚ := 2 ^ (2 - e).toNat * 10 ^ (-p).toNat

theorem scale_pos (e p : ℤ) : 0 < scale e p :=
  mul_pos (pow_pos (by norm_num) _) (pow_pos (by norm_num) _)

/-- A power with a whole number as its exponent, scaled by what a negative exponent takes away. -/
theorem zpow_mul_pow {b : ℚ} (hb : b ≠ 0) (z : ℤ) : b ^ z * b ^ (-z).toNat = b ^ z.toNat := by
  rw [← zpow_natCast, ← zpow_natCast, ← zpow_add₀ hb]
  congr 1
  omega

@[simp, norm_cast] theorem cast_twoTo (n : ℕ) : (twoTo n : ℚ) = 2 ^ n := Nat.cast_pow 2 n

@[simp, norm_cast] theorem cast_tenTo (n : ℕ) : (tenTo n : ℚ) = 10 ^ n := Nat.cast_pow 10 n

theorem unit_eq (e p : ℤ) : (unit e p : ℚ) = 2 ^ (e - 2) * scale e p := by
  have htwo := zpow_mul_pow (two_ne_zero (α := ℚ)) (e - 2)
  rw [neg_sub] at htwo
  rw [unit, scale, ← mul_assoc, htwo]
  push_cast
  rfl

theorem step_eq (e p : ℤ) : (step e p : ℚ) = 10 ^ p * scale e p := by
  have hten := zpow_mul_pow (show (10 : ℚ) ≠ 0 by norm_num) p
  rw [step, scale, mul_left_comm, hten, mul_comm]
  push_cast
  rfl

/-- A number and a point compare as they do when they are scaled. -/
theorem unit_le_step (n d : ℕ) (e p : ℤ) :
    n * unit e p ≤ d * step e p ↔ n * 2 ^ (e - 2) ≤ point d p := by
  rw [← Nat.cast_le (α := ℚ), Nat.cast_mul, Nat.cast_mul, unit_eq, step_eq, ← mul_assoc,
    ← mul_assoc, mul_le_mul_iff_of_pos_right (scale_pos e p), point]

theorem step_le_unit (n d : ℕ) (e p : ℤ) :
    d * step e p ≤ n * unit e p ↔ point d p ≤ n * 2 ^ (e - 2) := by
  rw [← Nat.cast_le (α := ℚ), Nat.cast_mul, Nat.cast_mul, unit_eq, step_eq, ← mul_assoc,
    ← mul_assoc, mul_le_mul_iff_of_pos_right (scale_pos e p), point]

theorem two_zpow_eq (e : ℤ) : (2 : ℚ) ^ e = 4 * 2 ^ (e - 2) := by
  rw [two_zpow_pred e, two_zpow_pred (e - 1)]
  ring_nf

/-- A number in quarters of its last place. -/
theorem quarters_eq (m : ℕ) (e : ℤ) : ((4 * m : ℕ) : ℚ) * 2 ^ (e - 2) = value m e := by
  rw [value, two_zpow_eq e]
  push_cast
  ring

theorem high_eq (m : ℕ) (e : ℤ) :
    ((4 * m + 2 : ℕ) : ℚ) * 2 ^ (e - 2) = value m e + 2 ^ e / 2 := by
  rw [value, two_zpow_eq e]
  push_cast
  ring

theorem low_eq (hm : m ≠ 0) (e : ℤ) :
    ((4 * m - reach m e : ℕ) : ℚ) * 2 ^ (e - 2) = value m e - stepBelow m e / 2 := by
  -- Counting in quarters, the middle below is two away, or one if the mantissa is the least one.
  have hreach : reach m e ≤ 4 * m := by
    unfold reach
    split <;> omega
  have hstep : (reach m e : ℚ) * 2 ^ (e - 2) = stepBelow m e / 2 := by
    unfold reach stepBelow
    have hsame : (m == twoTo 52 && decide (leastExponent < e)) = true ↔
        m = 2 ^ 52 ∧ -1074 < e := by
      rw [Bool.and_eq_true, beq_iff_eq, decide_eq_true_iff]
      rfl
    have hpred : (2 : ℚ) ^ (e - 1) = 2 * 2 ^ (e - 2) := by
      rw [two_zpow_pred (e - 1)]
      ring_nf
    by_cases hfull : m = 2 ^ 52 ∧ -1074 < e
    · rw [if_pos (hsame.mpr hfull), if_pos hfull, hpred]
      push_cast
      ring
    · rw [if_neg (hfull ∘ hsame.mp), if_neg hfull, two_zpow_eq e]
      push_cast
      ring
  rw [Nat.cast_sub hreach, sub_mul, quarters_eq, hstep]

/-- Which points of a grid are read as a number. -/
theorem reads_iff (h : Regular m e) (hm : m ≠ 0) (p : ℤ) (d : ℕ) :
    reads m e p d = true ↔ ReadAs (point d p) m e := by
  rw [h.readAs_iff hm, ← low_eq hm, ← high_eq]
  unfold reads
  dsimp only
  -- The middles belong to a number with an even mantissa.
  by_cases heven : m % 2 = 0
  · rw [if_pos (beq_iff_eq.mpr heven), Bool.and_eq_true, decide_eq_true_iff, decide_eq_true_iff,
      unit_le_step, step_le_unit]
    exact and_congr_right fun _ => (and_iff_left (.inl (Nat.even_iff.mpr heven))).symm
  · have hodd : ¬ Even m := fun hc => heven (Nat.even_iff.mp hc)
    rw [if_neg (heven ∘ beq_iff_eq.mp), Bool.and_eq_true, decide_eq_true_iff, decide_eq_true_iff,
      ← Nat.not_le, ← Nat.not_le, unit_le_step, step_le_unit, not_le, not_le]
    constructor
    · rintro ⟨hlow, hhigh⟩
      exact ⟨hlow.le, hhigh.le, .inr ⟨hlow.ne, hhigh.ne⟩⟩
    · rintro ⟨hlow, hhigh, hmiddle⟩
      obtain ⟨hlow', hhigh'⟩ := hmiddle.resolve_left hodd
      exact ⟨lt_of_le_of_ne hlow hlow', lt_of_le_of_ne hhigh hhigh'⟩

/-! ### The nearest point -/

/-- The last point of a grid that is not above a number. -/
def floor (m : ℕ) (e p : ℤ) : ℕ := 4 * m * unit e p / step e p

theorem step_pos (e p : ℤ) : 0 < step e p := by
  rw [← Nat.cast_pos (α := ℚ), step_eq]
  exact mul_pos (ten_zpow_pos p) (scale_pos e p)

theorem floor_le (m : ℕ) (e p : ℤ) : point (floor m e p) p ≤ value m e := by
  rw [← quarters_eq, ← step_le_unit, mul_comm]
  exact Nat.mul_div_le _ _

theorem lt_floor_succ (m : ℕ) (e p : ℤ) : value m e < point (floor m e p + 1) p := by
  rw [← quarters_eq, ← not_le, ← step_le_unit, not_le]
  exact Nat.lt_mul_of_div_lt (Nat.lt_succ_self _) (step_pos e p)

/-- How far a number is behind the last point before it. -/
theorem left_eq (m : ℕ) (e p : ℤ) :
    ((4 * m * unit e p % step e p : ℕ) : ℚ) = (value m e - point (floor m e p) p) * scale e p := by
  -- The scaled number is so many steps, and what is left of it.
  have hsplit := congrArg (Nat.cast (R := ℚ)) (Nat.div_add_mod (4 * m * unit e p) (step e p))
  rw [← floor, Nat.cast_add, Nat.cast_mul, Nat.cast_mul, unit_eq, step_eq, ← mul_assoc,
    quarters_eq] at hsplit
  rw [point]
  linarith

/-- Which of its two neighbours a number is nearer to. -/
theorem nearer_iff (m : ℕ) (e p : ℤ) :
    (decide (2 * (4 * m * unit e p % step e p) < step e p) ||
        2 * (4 * m * unit e p % step e p) == step e p && floor m e p % 2 == 0) = true ↔
      2 * (value m e - point (floor m e p) p) ≤ 10 ^ p ∧
        (2 * (value m e - point (floor m e p) p) = 10 ^ p → Even (floor m e p)) := by
  have hscale := scale_pos e p
  have hlt : 2 * (4 * m * unit e p % step e p) < step e p ↔
      2 * (value m e - point (floor m e p) p) < 10 ^ p := by
    rw [← Nat.cast_lt (α := ℚ), Nat.cast_mul, left_eq, step_eq, ← mul_assoc,
      mul_lt_mul_iff_of_pos_right hscale, Nat.cast_ofNat]
  have heq : 2 * (4 * m * unit e p % step e p) = step e p ↔
      2 * (value m e - point (floor m e p) p) = 10 ^ p := by
    rw [← Nat.cast_inj (R := ℚ), Nat.cast_mul, left_eq, step_eq, ← mul_assoc,
      mul_left_inj' hscale.ne', Nat.cast_ofNat]
  rw [Bool.or_eq_true, Bool.and_eq_true, decide_eq_true_iff, beq_iff_eq, beq_iff_eq, hlt, heq,
    ← Nat.even_iff]
  constructor
  · rintro (hless | ⟨hsame, heven⟩)
    · exact ⟨hless.le, fun hc => absurd hc hless.ne⟩
    · exact ⟨hsame.le, fun _ => heven⟩
  · rintro ⟨hle, heven⟩
    rcases hle.lt_or_eq with hless | hsame
    · exact .inl hless
    · exact .inr ⟨hsame, heven hsame⟩

/-- The point of a grid that a number is written as: it is read as the number, and no other one that
is read so is nearer, nor as near unless the point is even. -/
structure NearestPoint (m : ℕ) (e p : ℤ) (d : ℕ) : Prop where
  reads : ReadAs (point d p) m e
  nearest : ∀ c, ReadAs (point c p) m e → |value m e - point d p| ≤ |value m e - point c p|
  even : ∀ c, ReadAs (point c p) m e → |value m e - point d p| = |value m e - point c p| →
    c = d ∨ Even d

section Sides

variable (h : Regular m e) (hm : m ≠ 0)

include h hm

/-- If a point before a number is read as the number, the last one before it is. -/
theorem readAs_floor (hc : ReadAs (point c p) m e) (hle : c ≤ floor m e p) :
    ReadAs (point (floor m e p) p) m e :=
  h.readAs_between hm hc (h.readAs_value hm) (point_le_point.mpr hle) (floor_le m e p)

theorem readAs_floor_succ (hc : ReadAs (point c p) m e) (hlt : floor m e p < c) :
    ReadAs (point (floor m e p + 1) p) m e :=
  h.readAs_between hm (h.readAs_value hm) hc (lt_floor_succ m e p).le (point_le_point.mpr hlt)

/-- On a grid without a point that is read as a number, none is found. -/
theorem onGrid?_eq_none : onGrid? m e p = none ↔ ∀ c, ¬ ReadAs (point c p) m e := by
  have hunder := reads_iff h hm p (floor m e p)
  have habove := reads_iff h hm p (floor m e p + 1)
  constructor
  · intro hnone c hc
    -- A point that is read as the number would let one of the neighbours be read so.
    have hneither : ¬reads m e p (floor m e p) = true ∧ ¬reads m e p (floor m e p + 1) = true := by
      unfold onGrid? at hnone
      dsimp only at hnone
      rw [← floor] at hnone
      split_ifs at hnone
      exact ⟨‹_›, ‹_›⟩
    rcases le_or_gt c (floor m e p) with hle | hlt
    · exact hneither.1 (hunder.mpr (readAs_floor h hm hc hle))
    · exact hneither.2 (habove.mpr (readAs_floor_succ h hm hc hlt))
  · intro hnone
    unfold onGrid?
    dsimp only
    rw [← floor, if_neg (hnone _ ∘ hunder.mp), if_neg (hnone _ ∘ habove.mp)]

/-- For every point that is read as a number, one of the two neighbours of the number is read so as
well, and is nearer unless it is this point. -/
theorem exists_neighbour (hc : ReadAs (point c p) m e) :
    ∃ n, (n = floor m e p ∨ n = floor m e p + 1) ∧ ReadAs (point n p) m e ∧
      |value m e - point n p| ≤ |value m e - point c p| ∧
      (|value m e - point n p| = |value m e - point c p| → n = c) := by
  have hle := floor_le m e p
  have hlt := lt_floor_succ m e p
  rcases le_or_gt c (floor m e p) with hcle | hclt
  · have hpoint := point_le_point (p := p).mpr hcle
    refine ⟨_, .inl rfl, readAs_floor h hm hc hcle, ?_⟩
    rw [abs_of_nonneg (by linarith), abs_of_nonneg (by linarith)]
    exact ⟨by linarith, fun hsame =>
      Nat.le_antisymm (point_le_point (p := p).mp (by linarith)) hcle⟩
  · have hpoint := point_le_point (p := p).mpr hclt
    refine ⟨_, .inr rfl, readAs_floor_succ h hm hc hclt, ?_⟩
    rw [abs_of_nonpos (by linarith), abs_of_nonpos (by linarith)]
    exact ⟨by linarith, fun hsame =>
      Nat.le_antisymm hclt (point_le_point (p := p).mp (by linarith))⟩

/-- A number is written as a point if neither of its two neighbours is better. -/
theorem nearestPoint_of_neighbours (hreads : ReadAs (point d p) m e)
    (hbest : ∀ n, n = floor m e p ∨ n = floor m e p + 1 → ReadAs (point n p) m e →
      |value m e - point d p| ≤ |value m e - point n p| ∧
        (|value m e - point d p| = |value m e - point n p| → n = d ∨ Even d)) :
    NearestPoint m e p d := by
  refine ⟨hreads, fun c hc => ?_, fun c hc hsame => ?_⟩
  · obtain ⟨n, hn, hread, hnear, -⟩ := exists_neighbour h hm hc
    exact (hbest n hn hread).1.trans hnear
  · obtain ⟨n, hn, hread, hnear, hequal⟩ := exists_neighbour h hm hc
    obtain ⟨hle, heven⟩ := hbest n hn hread
    have hn' : |value m e - point d p| = |value m e - point n p| :=
      le_antisymm hle (hnear.trans hsame.ge)
    rw [← hequal (hn'.symm.trans hsame)]
    exact heven hn'

/-- The point that is found on a grid is the one that the number is written as. -/
theorem onGrid?_eq_some (hd : onGrid? m e p = some d) : NearestPoint m e p d := by
  have hunder := reads_iff h hm p (floor m e p)
  have habove := reads_iff h hm p (floor m e p + 1)
  have hsucc := point_succ (floor m e p) p
  -- The number lies between its two neighbours, which are one step apart.
  have hlower : |value m e - point (floor m e p) p| = value m e - point (floor m e p) p :=
    abs_of_nonneg (sub_nonneg.mpr (floor_le m e p))
  have hupper : |value m e - point (floor m e p + 1) p| =
      point (floor m e p) p + 10 ^ p - value m e := by
    rw [← hsucc, abs_of_neg (sub_neg.mpr (lt_floor_succ m e p)), neg_sub]
  unfold onGrid? at hd
  dsimp only at hd
  rw [← floor] at hd
  split at hd
  next hreads =>
    split at hd
    next hreads' =>
      split at hd
      next hnear =>
        cases hd
        obtain ⟨hle, heven⟩ := (nearer_iff m e p).mp hnear
        refine nearestPoint_of_neighbours h hm (hunder.mp hreads) ?_
        rintro n (rfl | rfl) _
        · exact ⟨le_rfl, fun _ => .inl rfl⟩
        · rw [hlower, hupper]
          exact ⟨by linarith, fun hc => .inr (heven (by linarith))⟩
      next hfar =>
        cases hd
        have hfar := hfar ∘ (nearer_iff m e p).mpr
        refine nearestPoint_of_neighbours h hm (habove.mp hreads') ?_
        rintro n (rfl | rfl) _
        · rw [hlower, hupper]
          refine ⟨?_, fun hc => .inr ?_⟩
          · by_contra hc
            exact hfar ⟨by linarith, fun hsame => by linarith⟩
          · by_contra hodd
            exact hfar ⟨by linarith, fun _ => by rwa [Nat.even_add_one, not_not] at hodd⟩
        · exact ⟨le_rfl, fun _ => .inl rfl⟩
    next hreads' =>
      cases hd
      refine nearestPoint_of_neighbours h hm (hunder.mp hreads) ?_
      rintro n (rfl | rfl) hn
      · exact ⟨le_rfl, fun _ => .inl rfl⟩
      · exact absurd (habove.mpr hn) hreads'
  next hreads =>
    split at hd
    next hreads' =>
      cases hd
      refine nearestPoint_of_neighbours h hm (habove.mp hreads') ?_
      rintro n (rfl | rfl) hn
      · exact absurd (hunder.mpr hn) hreads
      · exact ⟨le_rfl, fun _ => .inl rfl⟩
    next => exact nomatch hd

/-- A grid with two points in a place of the mantissa has a point that is read as the number. -/
theorem onGrid?_ne_none (hfine : (10 : ℚ) ^ p < 2 ^ (e - 1)) : onGrid? m e p ≠ none := by
  rw [ne_eq, onGrid?_eq_none h hm, not_forall]
  have hle := floor_le m e p
  have hlt := lt_floor_succ m e p
  have hsucc := point_succ (floor m e p) p
  have hpred := two_zpow_pred e
  have hbelow : 2 ^ (e - 1) ≤ stepBelow m e := by
    have hpos := two_zpow_pos (e - 1)
    unfold stepBelow
    split <;> linarith
  -- The nearer one of the two neighbours is less than half a step away.
  rcases le_total (value m e - point (floor m e p) p) (10 ^ p / 2) with hnear | hfar
  · refine ⟨floor m e p, not_not.mpr ((h.readAs_iff hm).mpr ⟨by linarith, by linarith, .inr ?_⟩)⟩
    exact ⟨fun hc => by linarith, fun hc => by linarith⟩
  · refine ⟨floor m e p + 1,
      not_not.mpr ((h.readAs_iff hm).mpr ⟨by linarith, by linarith, .inr ?_⟩)⟩
    exact ⟨fun hc => by linarith, fun hc => by linarith⟩

end Sides

end Shortest

end EnvProfiles
