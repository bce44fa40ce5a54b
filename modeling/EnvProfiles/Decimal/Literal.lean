import EnvProfiles.Decimal.Double

/-!
# Decimal Literals

How a floating-point number is written: a sign, digits with an optional point
before, between or after them, and an optional power of ten; or one of the
words for the numbers that have no digits, in any case of letters. No other
character may stand there, and white space may not either.

## Main definitions

* `Double.ofText?`: The number that a text denotes.
-/

namespace EnvProfiles

namespace Literal

/-- The value of a run of decimal digits. -/
def value (digits : List Char) : Nat :=
  digits.foldl (fun n d => n * 10 + (d.toNat - '0'.toNat)) 0

/-- A sign, if there is one, and what follows it. -/
def sign : List Char → Bool × List Char
  | '-' :: r => (true, r)
  | '+' :: r => (false, r)
  | r => (false, r)

/-- The power of ten at the end of a literal; without one it is zero. -/
def power? : List Char → Option Int
  | [] => some 0
  | c :: r =>
    if c == 'e' || c == 'E' then
      let (negative, digits) := sign r
      if digits.isEmpty || !digits.all Char.isDigit then none
      else some (if negative then -(value digits : Int) else (value digits : Int))
    else none

/-- The point and the digits after it. -/
def fraction : List Char → List Char × List Char
  | '.' :: r => (r.takeWhile Char.isDigit, r.dropWhile Char.isDigit)
  | r => ([], r)

/-- A number written with digits, of which at least one must be there. -/
def number? (negative : Bool) (cs : List Char) : Option Double := do
  let whole := cs.takeWhile Char.isDigit
  let (part, rest) := fraction (cs.dropWhile Char.isDigit)
  if whole.isEmpty && part.isEmpty then none
  else
    let power ← power? rest
    return .ofDecimal negative (value (whole ++ part)) (power - part.length)

end Literal

/-- The number that a text denotes. -/
def Double.ofText? (text : List Char) : Option Double :=
  let (negative, cs) := Literal.sign text
  let word := String.ofList (cs.map Char.toLower)
  if word == "inf" || word == "infinity" then some (.infinite negative)
  else if word == "nan" then some .nan
  else Literal.number? negative cs

end EnvProfiles
