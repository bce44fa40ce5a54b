/-!
# Ranges of Characters

Sets of characters as closed ranges of code points, the form in which the
properties of characters are kept here.

## Main definitions

* `CharRanges`: Ranges in ascending order.
* `CharRanges.contains`: Whether a character lies in one of them.
-/

namespace EnvProfiles

/-- Ranges of code points, given by the first and the last one, in ascending order. -/
abbrev CharRanges := List (Nat × Nat)

/-- Whether a character lies in one of the ranges. -/
def CharRanges.contains (ranges : CharRanges) (c : Char) : Bool :=
  ranges.any fun (first, last) => first ≤ c.toNat && c.toNat ≤ last

end EnvProfiles
