import EnvProfiles.Decimal.Double

/-!
# The Shortest Decimal Text

The decimal form of a floating-point number: the fewest digits that are read
back as that number, and among those the nearest to it. The digits are found by
trying decimal grids, from the coarsest to the finest, until one of the two
points next to the number is read back as the number. Seventeen digits always
suffice.

How the digits are laid out differs from format to format and is given by a
`Layout`.

## Main definitions

* `Shortest.digits`: The digits of a positive number and its power of ten.
* `Layout`: How digits are laid out, and how the special numbers are written.
* `Double.text`: The text of a number.
-/

namespace EnvProfiles

namespace Shortest

/-- The power of ten of the first digit of a positive number. -/
def leadingPower (mantissa : Nat) (exponent : Int) : Int :=
  -- The factor keeps the smallest number of the format above one.
  let scaled := mantissa * twoTo exponent.toNat * tenTo 340 / twoTo (-exponent).toNat
  (Double.digitCount scaled : Int) - 341

/-! The numbers and the points of a grid are scaled to whole numbers: a quarter of the last place of
the mantissa is one `unit`, and the distance of two points of the grid is one `step`. -/

/-- A quarter of the last place of a mantissa, scaled for the grid of `10 ^ power`. -/
def unit (exponent power : Int) : Nat := twoTo (exponent - 2).toNat * tenTo (-power).toNat

/-- The distance of two points of the grid of `10 ^ power`, scaled for a mantissa. -/
def step (exponent power : Int) : Nat := tenTo power.toNat * twoTo (2 - exponent).toNat

/-- How many quarters of the last place the numbers that are read back reach below a number. The
interval below a power of two is half as wide. -/
def reach (mantissa : Nat) (exponent : Int) : Nat :=
  if mantissa == twoTo 52 && Double.leastExponent < exponent then 1 else 2

/-- Whether the point `point * 10 ^ power` is read back as `mantissa * 2 ^ exponent`. -/
def reads (mantissa : Nat) (exponent power : Int) (point : Nat) : Bool :=
  let low := (4 * mantissa - reach mantissa exponent) * unit exponent power
  let high := (4 * mantissa + 2) * unit exponent power
  let place := point * step exponent power
  if mantissa % 2 == 0 then low ≤ place && place ≤ high else low < place && place < high

/-- The point of the grid of `10 ^ power` that is read back as the number and is nearest to it. A
tie goes to the even point. Only the two neighbours of the number need be tried. -/
def onGrid? (mantissa : Nat) (exponent power : Int) : Option Nat :=
  let place := 4 * mantissa * unit exponent power
  let distance := step exponent power
  let d := place / distance
  let left := place % distance
  if reads mantissa exponent power d then
    if reads mantissa exponent power (d + 1) then
      some (if 2 * left < distance || (2 * left == distance && d % 2 == 0) then d else d + 1)
    else some d
  else if reads mantissa exponent power (d + 1) then some (d + 1)
  else none

/-- Tries the grids from `power` downwards. -/
def search (mantissa : Nat) (exponent : Int) : Nat → Int → Nat × Int
  | 0, power => (mantissa, power)
  | n + 1, power =>
    match onGrid? mantissa exponent power with
    | some d => (d, power)
    | none => search mantissa exponent n (power - 1)

/-- The digits of a positive number without zeros at the end, and the power of ten of the first. -/
def digits (mantissa : Nat) (exponent : Int) : List Char × Int :=
  let (d, power) := search mantissa exponent 18 (leadingPower mantissa exponent)
  let all := Nat.toDigits 10 d
  let kept := (all.reverse.dropWhile (· == '0')).reverse
  (kept, power + all.length - 1)

end Shortest

/-- How digits are laid out, and how the special numbers are written. -/
structure Layout where
  /-- The powers of ten of the first digit for which no exponent is written. -/
  positional : Int → Bool
  /-- What ends a whole number. -/
  wholeEnd : String
  infinity : String
  undefined : String

namespace Layout

/-- The text of digits whose first has a given power of ten, without an exponent. -/
def place (layout : Layout) (digits : List Char) (power : Int) : String :=
  if power < 0 then
    "0." ++ String.ofList (List.replicate (-power - 1).toNat '0' ++ digits)
  else
    let whole := power.toNat + 1
    if digits.length ≤ whole then
      String.ofList (digits ++ List.replicate (whole - digits.length) '0') ++ layout.wholeEnd
    else String.ofList (digits.take whole ++ '.' :: digits.drop whole)

/-- The text of digits whose first has a given power of ten. -/
def arrange (layout : Layout) (digits : List Char) (power : Int) : String :=
  if layout.positional power then layout.place digits power
  else
    let significand := match digits with
      | [d] => String.ofList [d]
      | d :: r => String.ofList (d :: '.' :: r)
      | [] => "0"
    significand ++ "e" ++ toString power

end Layout

/-- The text of a number in a layout. -/
def Double.text (layout : Layout) : Double → String
  | .nan => layout.undefined
  | .infinite negative => (if negative then "-" else "") ++ layout.infinity
  | .finite negative mantissa exponent _ =>
    let (digits, power) :=
      if mantissa == 0 then (['0'], 0) else Shortest.digits mantissa exponent
    (if negative then "-" else "") ++ layout.arrange digits power

end EnvProfiles
