import EnvProfiles.Decimal.Range

/-!
# Floating-Point Numbers

The numbers of the binary format of 64 bits, as exact values: a sign, a whole
number below 2^53 and a power of two. A decimal number is rounded to the
nearest of them, and of two that are equally near to the one whose whole number
is even.

A number of the format has one form only. Its whole number has all 53 bits,
unless the power of two is the least one, and a number carries the proof of this
with it. So a quotient is scaled before it is rounded, by the power of two of its
first bit, and what has to be shown is that the scaled quotient lies between 2^52
and 2^53.

## Main definitions

* `Double.Regular`: The whole numbers and powers of two of the format.
* `Double`: A number of the format.
* `Double.ofDecimal`: The number nearest to a decimal one.
* `Double.same`: Whether two numbers count as one key of a mapping.

## Theorems

* `Double.not_below_floorLog2`, `Double.below_floorLog2`: The power of two of the
  first bit of a quotient.
* `Double.regular_carried`: What a quotient is rounded to is in the format.
-/

namespace EnvProfiles

namespace Double

/-- The power of two below which no mantissa is scaled. -/
def leastExponent : Int := -1074

/-- The power of two above which a number is infinite. -/
def greatestExponent : Int := 971

/-- A mantissa and an exponent are those of a number: the mantissa has 53 bits, or fewer if no
smaller exponent is left. -/
structure Regular (mantissa : Nat) (exponent : Int) : Prop where
  mantissa_lt : mantissa < twoTo 53
  least : leastExponent ≤ exponent
  greatest : exponent ≤ greatestExponent
  full : twoTo 52 ≤ mantissa ∨ exponent = leastExponent

end Double

/-- A number of the binary format of 64 bits. -/
inductive Double where
  | nan
  | infinite (negative : Bool)
  /-- The number `mantissa * 2 ^ exponent`, or its opposite. -/
  | finite (negative : Bool) (mantissa : Nat) (exponent : Int)
    (regular : Double.Regular mantissa exponent)
deriving DecidableEq, Repr

namespace Double

/-- The number zero, which has a sign. -/
def zero (negative : Bool) : Double :=
  .finite negative 0 leastExponent ⟨by decide, by decide, by decide, .inr rfl⟩

/-! ### The size of a quotient -/

/-- Whether a quotient lies below a power of two. -/
def below (num den : Nat) (power : Int) : Bool :=
  num * twoTo (-power).toNat < den * twoTo power.toNat

/-- The largest power of two that is not above a positive quotient. -/
def floorLog2 (num den : Nat) : Int :=
  let guess : Int := (Nat.log2 num : Int) - (Nat.log2 den : Int)
  if below num den guess then guess - 1 else guess

theorem twoTo_pos (n : Nat) : 0 < twoTo n := Nat.pow_pos (by decide)

theorem twoTo_add (m n : Nat) : twoTo (m + n) = twoTo m * twoTo n := Nat.pow_add 2 m n

variable {num den a b : Nat} {power other : Int}

/-- A power of two can be told by any two exponents whose difference it has. -/
theorem below_iff (h : power = (b : Int) - a) :
    below num den power = true ↔ num * twoTo a < den * twoTo b := by
  have hsame : ∃ t, a = (-power).toNat + t ∧ b = power.toNat + t := ⟨min a b, by omega, by omega⟩
  obtain ⟨t, ha, hb⟩ := hsame
  rw [below, decide_eq_true_iff, ha, hb, twoTo_add, twoTo_add, ← Nat.mul_assoc, ← Nat.mul_assoc]
  exact (Nat.mul_lt_mul_right (twoTo_pos t)).symm

theorem below_mono (h : below num den power = true) (hle : power ≤ other) :
    below num den other = true := by
  have hother : other = ((power.toNat + (other - power).toNat : Nat) : Int) - (-power).toNat := by
    omega
  rw [below_iff hother, twoTo_add, ← Nat.mul_assoc]
  exact Nat.lt_of_lt_of_le (of_decide_eq_true h) (Nat.le_mul_of_pos_right _ (twoTo_pos _))

theorem not_below_floorLog2 (hnum : num ≠ 0) :
    below num den (floorLog2 num den) = false := by
  unfold floorLog2
  dsimp only
  split
  next =>
    -- One power below the guess: the first bits alone decide.
    rw [← Bool.not_eq_true,
      below_iff (show _ = ((Nat.log2 num : Nat) : Int) - (Nat.log2 den + 1 : Nat) by omega),
      Nat.not_lt]
    calc den * twoTo (Nat.log2 num)
        ≤ twoTo (Nat.log2 den + 1) * num :=
          Nat.mul_le_mul (Nat.le_of_lt Nat.lt_log2_self) (Nat.log2_self_le hnum)
      _ = num * twoTo (Nat.log2 den + 1) := Nat.mul_comm _ _
  next h => exact Bool.eq_false_iff.mpr h

theorem below_floorLog2 (hden : den ≠ 0) : below num den (floorLog2 num den + 1) = true := by
  unfold floorLog2
  dsimp only
  split
  next h => rwa [Int.sub_add_cancel]
  next =>
    rw [below_iff (show _ = ((Nat.log2 num + 1 : Nat) : Int) - (Nat.log2 den : Nat) by omega)]
    calc num * twoTo (Nat.log2 den)
        < twoTo (Nat.log2 num + 1) * twoTo (Nat.log2 den) :=
          (Nat.mul_lt_mul_right (twoTo_pos _)).mpr Nat.lt_log2_self
      _ ≤ twoTo (Nat.log2 num + 1) * den := Nat.mul_le_mul_left _ (Nat.log2_self_le hden)
      _ = den * twoTo (Nat.log2 num + 1) := Nat.mul_comm _ _

/-! ### Rounding -/

/-- A quotient rounded to a whole number, a half to the even neighbour. -/
def roundQuotient (num den : Nat) : Nat :=
  let q := num / den
  let twice := 2 * (num % den)
  if den < twice || (twice == den && q % 2 == 1) then q + 1 else q

/-- The exponent to which a positive quotient is rounded. -/
def roundedExponent (num den : Nat) : Int := max (floorLog2 num den - 52) leastExponent

/-- The mantissa to which a quotient is rounded at an exponent. -/
def roundedMantissa (num den : Nat) (exponent : Int) : Nat :=
  roundQuotient (num * twoTo (-exponent).toNat) (den * twoTo exponent.toNat)

/-- A mantissa that rounding up has made longer by one bit is written with fewer bits. -/
def carried (mantissa : Nat) (exponent : Int) : Nat × Int :=
  if mantissa == twoTo 53 then (twoTo 52, exponent + 1) else (mantissa, exponent)

theorem div_le_roundQuotient (num den : Nat) : num / den ≤ roundQuotient num den := by
  unfold roundQuotient
  dsimp only
  split <;> omega

theorem roundQuotient_le (num den : Nat) : roundQuotient num den ≤ num / den + 1 := by
  unfold roundQuotient
  dsimp only
  split <;> omega

/-- A quotient has no more than 53 bits before the point when it has been scaled. -/
theorem roundedMantissa_le (hden : den ≠ 0) {exponent : Int}
    (h : floorLog2 num den - 52 ≤ exponent) : roundedMantissa num den exponent ≤ twoTo 53 := by
  have hbelow : below num den (exponent + 53) = true :=
    below_mono (below_floorLog2 hden) (by omega)
  rw [below_iff (show _ = ((exponent.toNat + 53 : Nat) : Int) - (-exponent).toNat by omega),
    twoTo_add, ← Nat.mul_assoc, Nat.mul_comm _ (twoTo 53)] at hbelow
  have hdiv : num * twoTo (-exponent).toNat / (den * twoTo exponent.toNat) < twoTo 53 :=
    Nat.div_lt_of_lt_mul (Nat.mul_comm (twoTo 53) _ ▸ hbelow)
  exact Nat.le_trans (roundQuotient_le _ _) hdiv

/-- It has all of them unless it is too small to be scaled so far. -/
theorem le_roundedMantissa (hnum : num ≠ 0) (hden : den ≠ 0) {exponent : Int}
    (h : exponent = floorLog2 num den - 52) : twoTo 52 ≤ roundedMantissa num den exponent := by
  have hbelow : below num den (exponent + 52) = false := by
    rw [h, Int.sub_add_cancel]
    exact not_below_floorLog2 hnum
  rw [← Bool.not_eq_true,
    below_iff (show _ = ((exponent.toNat + 52 : Nat) : Int) - (-exponent).toNat by omega),
    twoTo_add, ← Nat.mul_assoc, Nat.not_lt] at hbelow
  have hpos : 0 < den * twoTo exponent.toNat :=
    Nat.mul_pos (Nat.pos_of_ne_zero hden) (twoTo_pos _)
  exact Nat.le_trans ((Nat.le_div_iff_mul_le hpos).mpr (Nat.mul_comm _ (twoTo 52) ▸ hbelow))
    (div_le_roundQuotient _ _)

/-- What a positive quotient is rounded to is in the format, unless it is too great for it. -/
theorem regular_carried (hnum : num ≠ 0) (hden : den ≠ 0) {rounded : Nat × Int}
    (h : carried (roundedMantissa num den (roundedExponent num den)) (roundedExponent num den) =
      rounded)
    (hgreatest : rounded.2 ≤ greatestExponent) : Regular rounded.1 rounded.2 := by
  have hle : roundedMantissa num den (roundedExponent num den) ≤ twoTo 53 :=
    roundedMantissa_le hden (Int.le_max_left _ _)
  have hleast : leastExponent ≤ roundedExponent num den := Int.le_max_right _ _
  subst h
  unfold carried at hgreatest ⊢
  split at hgreatest
  next hcarry =>
    rw [if_pos hcarry]
    have hshort : twoTo 52 < twoTo 53 := by decide
    exact ⟨hshort, by omega, hgreatest, .inl (Nat.le_refl _)⟩
  next hcarry =>
    rw [if_neg hcarry]
    have hne : roundedMantissa num den (roundedExponent num den) ≠ twoTo 53 :=
      fun hc => hcarry (beq_iff_eq.mpr hc)
    refine ⟨Nat.lt_of_le_of_ne hle hne, hleast, hgreatest, ?_⟩
    by_cases hfull : roundedExponent num den = floorLog2 num den - 52
    · exact .inl (le_roundedMantissa hnum hden hfull)
    · exact .inr (by unfold roundedExponent at hfull ⊢; omega)

/-- The number nearest to a positive quotient. -/
def ofQuotient (negative : Bool) (num den : Nat) (hnum : num ≠ 0) (hden : den ≠ 0) : Double :=
  let exponent := roundedExponent num den
  match h : carried (roundedMantissa num den exponent) exponent with
  | (mantissa, exponent) =>
    if hgreatest : exponent ≤ greatestExponent then
      .finite negative mantissa exponent (regular_carried hnum hden h hgreatest)
    else .infinite negative

/-- How many decimal digits a number has. -/
def digitCount (n : Nat) : Nat := (Nat.toDigits 10 n).length

theorem tenTo_ne_zero (n : Nat) : tenTo n ≠ 0 := Nat.ne_of_gt (Nat.pow_pos (by decide))

/-- The number nearest to `digits * 10 ^ scale`. The cases of the size lie outside of the format
whatever the digits are; they keep the powers of ten small. -/
def ofDecimal (negative : Bool) (digits : Nat) (scale : Int) : Double :=
  if h : digits = 0 then zero negative
  else
    let size := (digitCount digits : Int) + scale
    if 310 < size then .infinite negative
    else if size < -330 then zero negative
    else
      ofQuotient negative (digits * tenTo scale.toNat) (tenTo (-scale).toNat)
        (Nat.mul_ne_zero h (tenTo_ne_zero _)) (tenTo_ne_zero _)

/-- Whether two numbers count as one: the two zeros do, and so do all that are no number. -/
def same : Double → Double → Bool
  | .finite s m e _, .finite t n f _ => (m == 0 && n == 0) || (s == t && m == n && e == f)
  | a, b => a == b

/-- Whether a number is neither infinite nor undefined. -/
def isFinite : Double → Bool
  | .finite _ _ _ _ => true
  | _ => false

end Double

end EnvProfiles
