/-!
# Ranges of Whole Numbers

Powers of two and ten, and the numbers that fit into a given number of bits,
with a sign or without one.

## Main definitions

* `twoTo`, `tenTo`: Powers of two and of ten.
* `fitsSigned`, `fitsUnsigned`: Whether a number fits into a number of bits.
-/

namespace EnvProfiles

/-- A power of two. -/
def twoTo (n : Nat) : Nat := Nat.pow 2 n

/-- A power of ten. -/
def tenTo (n : Nat) : Nat := Nat.pow 10 n

/-- Whether a number with a sign fits into a number of bits, of which one is for the sign. -/
def fitsSigned (bits : Nat) (n : Int) : Bool :=
  let limit : Int := twoTo (bits - 1)
  0 ≤ n + limit && n < limit

/-- Whether a number without a sign fits into a number of bits. -/
def fitsUnsigned (bits : Nat) (n : Int) : Bool :=
  let limit : Int := twoTo bits
  0 ≤ n && n < limit

end EnvProfiles
