import EnvProfiles.Decimal.Double

/-!
# Floating-Point Numbers of Any Width

Numbers as a mantissa of a limited number of bits and a power of two, with
infinities and a number that is none. They are read from decimal and hexadecimal
text, rounded to the nearest one and to even in the middle, and written with a
given number of digits, exactly.

Neither the least nor the greatest exponent of a format is observed here: all
texts that programs meet lie well between them.

## Main definitions

* `Floating`: A number.
* `Floating.ofRatio`: The number that is nearest to a ratio.
* `Floating.ofText?`: The number at the start of a text.
* `Floating.fixed`, `Floating.scientific`, `Floating.general`, `Floating.hexadecimal`: Texts of a
  number.
-/

namespace EnvProfiles

/-- A number: its sign with a mantissa and a power of two, or one of the special values. -/
inductive Floating where
  | finite (negative : Bool) (mantissa : Nat) (exponent : Int)
  | infinite (negative : Bool)
  | undefined (negative : Bool)
deriving DecidableEq, Repr

namespace Floating

/-- How many bits a number has. -/
def bitLength (n : Nat) : Nat := if n == 0 then 0 else Nat.log2 n + 1

/-- A ratio times a power of two, as a ratio. -/
def scaled (a b : Nat) (shift : Int) : Nat × Nat :=
  if 0 ≤ shift then (a * twoTo shift.toNat, b) else (a, b * twoTo (-shift).toNat)

/-- The number of a width that is nearest to a ratio. -/
def ofRatio (bits : Nat) (negative : Bool) (a b : Nat) : Floating :=
  if a == 0 || b == 0 then finite negative 0 0
  else
    let shift : Int := bits - ((bitLength a : Int) - bitLength b)
    let place (shift : Int) : Nat × Int :=
      let (a, b) := scaled a b shift
      (Double.roundQuotient a b, -shift)
    let (m, e) := place shift
    -- The quotient has as many bits as wanted or one more.
    let (m, e) := if bitLength m ≤ bits then (m, e) else place (shift - 1)
    finite negative m e

/-- The ratio that a mantissa and an exponent make. -/
def ratio (mantissa : Nat) (exponent : Int) : Nat × Nat := scaled mantissa 1 exponent

/-- Whether a number lies below zero, or is a zero that does. -/
def isNegative : Floating → Bool
  | finite n _ _ => n
  | infinite n => n
  | undefined n => n

/-! ### Reading -/

/-- The value of a digit. -/
def digitValue (c : Char) : Nat :=
  if c.isDigit then c.toNat - '0'.toNat
  else if c.isLower then c.toNat - 'a'.toNat + 10
  else c.toNat - 'A'.toNat + 10

def isHexDigit (c : Char) : Bool :=
  c.isDigit || ('a' ≤ c && c ≤ 'f') || ('A' ≤ c && c ≤ 'F')

/-- The digits at the start of a text with a point among them: their value, how many stand after the
point, and what follows. Nothing, if there is no digit. -/
def digits? (base : Nat) (isDigit : Char → Bool) (cs : List Char) :
    Option (Nat × Nat × List Char) :=
  let whole := cs.takeWhile isDigit
  let (part, r) := match cs.dropWhile isDigit with
    | '.' :: r => (r.takeWhile isDigit, r.dropWhile isDigit)
    | r => ([], r)
  if whole.isEmpty && part.isEmpty then none
  else some ((whole ++ part).foldl (fun n d => n * base + digitValue d) 0, part.length, r)

/-- The exponent after a letter, and what follows. -/
def exponent (isLetter : Char → Bool) (cs : List Char) : Int × List Char :=
  match cs with
  | c :: r =>
    if isLetter c then
      let (negative, ds) := match r with
        | '-' :: ds => (true, ds)
        | '+' :: ds => (false, ds)
        | ds => (false, ds)
      let number := ds.takeWhile Char.isDigit
      if number.isEmpty then (0, cs)
      else
        let n : Int := min (number.foldl (fun n d => n * 10 + digitValue d) 0) 20000
        (if negative then -n else n, ds.dropWhile Char.isDigit)
    else (0, cs)
  | [] => (0, [])

/-- A word in any case at the start of a text, and what follows. -/
def word? (word : String) (cs : List Char) : Option (List Char) :=
  let start := cs.take word.length
  if start.map Char.toLower == word.toList then some (cs.drop word.length) else none

/-- The number of a width at the start of a text, without white space and a sign before it, and what
follows. -/
def unsigned? (bits : Nat) (negative : Bool) (cs : List Char) : Option (Floating × List Char) :=
  let decimal : Option (Floating × List Char) :=
    (digits? 10 Char.isDigit cs).map fun (n, places, r) =>
      let (e, r) := exponent (fun c => c == 'e' || c == 'E') r
      let e := e - places
      let x := if 0 ≤ e then ofRatio bits negative (n * tenTo e.toNat) 1
        else ofRatio bits negative n (tenTo (-e).toNat)
      (x, r)
  match word? "infinity" cs, word? "inf" cs, word? "nan" cs with
  | some r, _, _ => some (infinite negative, r)
  | _, some r, _ => some (infinite negative, r)
  | _, _, some r => some (undefined negative, r)
  | _, _, _ =>
    match word? "0x" cs with
    | some r =>
      match digits? 16 isHexDigit r with
      | some (n, places, r) =>
        let (e, r) := exponent (fun c => c == 'p' || c == 'P') r
        let (a, b) := scaled n 1 (e - 4 * places)
        some (ofRatio bits negative a b, r)
      | none => decimal
    | none => decimal

/-- The number of a width at the start of a text, with white space and a sign before it, and what
follows. -/
def ofText? (bits : Nat) (cs : List Char) : Option (Floating × List Char) :=
  match cs.dropWhile fun c => c == ' ' || (9 ≤ c.toNat && c.toNat ≤ 13) with
  | '-' :: r => unsigned? bits true r
  | '+' :: r => unsigned? bits false r
  | r => unsigned? bits false r

/-! ### Writing

The texts here are those of a number without its sign. -/

/-- Decimal digits with a point before the last ones. -/
def withPoint (digits : List Char) (places : Nat) (point : Bool) : List Char :=
  let digits := List.replicate (places + 1 - digits.length) '0' ++ digits
  let whole := digits.take (digits.length - places)
  let part := digits.drop (digits.length - places)
  whole ++ (if part.isEmpty && !point then [] else '.' :: part)

/-- A ratio with so many digits after the point. -/
def fixed (a b places : Nat) (point : Bool) : List Char :=
  withPoint (Nat.toDigits 10 (Double.roundQuotient (a * tenTo places) b)) places point

/-- A ratio times a power of ten, as a ratio. -/
def tenfold (a b : Nat) (e : Int) : Nat × Nat :=
  if 0 ≤ e then (a * tenTo e.toNat, b) else (a, b * tenTo (-e).toNat)

/-- The place of the first decimal digit of a ratio that is not zero. -/
def firstPlace (a b : Nat) : Int :=
  let guess : Int := (Nat.toDigits 10 a).length - (Nat.toDigits 10 b).length
  let (c, d) := tenfold a b (-guess)
  if c < d then guess - 1 else guess

/-- The digits of a ratio before and after the point, as one number, and the power of ten that goes
with them. -/
def significant (a b places : Nat) : Nat × Int :=
  if a == 0 then (0, 0)
  else
    let e := firstPlace a b
    let (c, d) := tenfold a b (places - e)
    let q := Double.roundQuotient c d
    if q < tenTo (places + 1) then (q, e) else (q / 10, e + 1)

/-- An exponent of at least two digits. -/
def exponentText (e : Int) : List Char :=
  let ds := Nat.toDigits 10 e.natAbs
  (if e < 0 then '-' else '+') :: (if ds.length < 2 then '0' :: ds else ds)

/-- A ratio with one digit before the point and a power of ten. -/
def scientific (a b places : Nat) (point : Bool) : List Char :=
  let (q, e) := significant a b places
  withPoint (Nat.toDigits 10 q) places point ++ 'e' :: exponentText e

/-- A text without zeros at its end, and without a point there. -/
def trimZeros (cs : List Char) : List Char :=
  if cs.contains '.' then
    match cs.reverse.dropWhile (· == '0') with
    | '.' :: r => r.reverse
    | r => r.reverse
  else cs

/-- A ratio with so many digits in all, in whichever of the two forms is shorter. Zeros at the end
are kept only if `point` is set. -/
def general (a b places : Nat) (point : Bool) : List Char :=
  let places := max places 1
  let (q, e) := significant a b (places - 1)
  let trim (cs : List Char) : List Char := if point then cs else trimZeros cs
  if -4 ≤ e && e < places then trim (fixed a b (places - 1 - e).toNat point)
  else trim (withPoint (Nat.toDigits 10 q) (places - 1) point) ++ 'e' :: exponentText e

/-- A number in hexadecimal digits, of which the first one holds so many bits. -/
def hexadecimal (mantissa : Nat) (exponent : Int) (bits lead : Nat) : List Char :=
  if mantissa == 0 then "0x0p+0".toList
  else
    -- The mantissa is brought to the full width.
    let shift := bits - bitLength mantissa
    let m := mantissa * twoTo shift
    let places := (bits - lead + 3) / 4
    let m := m * twoTo (4 * places - (bits - lead))
    let ds := Nat.toDigits 16 m
    let e := exponent - shift + (bits - lead)
    "0x".toList ++ trimZeros (withPoint ds places false) ++
      'p' :: (if e < 0 then '-' else '+') :: Nat.toDigits 10 e.natAbs

end Floating

end EnvProfiles
