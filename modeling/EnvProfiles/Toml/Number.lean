import EnvProfiles.Decimal.Literal
import EnvProfiles.Toml.Value

/-!
# Numbers of TOML

Whole numbers in four radices and numbers with a fraction. Underscores may stand
between digits. A decimal number does not begin with a zero unless the zero is
all there is before the point. A whole number fits into 64 bits with a sign, and
a number with a fraction is finite unless it is one of the words for the numbers
without digits.

## Main definitions

* `number?`: The number that a word denotes.
-/

namespace EnvProfiles.TomlReader

/-- Digits without the underscores between them. -/
def digits? (isDigit : Char → Bool) (cs : List Char) : Option (List Char) :=
  let rec go : Bool → List Char → Option (List Char)
    | after, [] => if after then some [] else none
    | after, c :: r =>
      if c == '_' then (if after then go false r else none)
      else if isDigit c then (go true r).map (c :: ·)
      else none
  go false cs

/-- Decimal digits without a zero before others. -/
def wholeDigits? (cs : List Char) : Option (List Char) := do
  let ds ← digits? Char.isDigit cs
  if ds.head? == some '0' && ds.length != 1 then none else return ds

/-- Whether a character is a digit in a radix, in either case. -/
def isRadixDigit (radix : Nat) (c : Char) : Bool :=
  if c.isDigit then c.toNat - '0'.toNat < radix
  else radix == 16 && (('a' ≤ c && c ≤ 'f') || ('A' ≤ c && c ≤ 'F'))

/-- The value of digits in a radix. -/
def radixValue (radix : Nat) (ds : List Char) : Nat :=
  ds.foldl (fun n c =>
    n * radix + (if c.isDigit then c.toNat - '0'.toNat else c.toLower.toNat - 'a'.toNat + 10)) 0

/-- A whole number that fits into 64 bits with a sign. -/
def fitting? (n : Int) : Option Toml := if fitsSigned 64 n then some (.int n) else none

/-- A whole number in a radix that a mark tells. -/
def marked? (radix : Nat) (cs : List Char) : Option Toml := do
  let ds ← digits? (isRadixDigit radix) cs
  fitting? (radixValue radix ds)

/-- A decimal whole number. -/
def decimal? (negative : Bool) (cs : List Char) : Option Toml := do
  let ds ← wholeDigits? cs
  let n : Int := radixValue 10 ds
  fitting? (if negative then -n else n)

/-- The digits of a power of ten, with their sign. -/
def power? (cs : List Char) : Option (List Char) :=
  match cs with
  | '-' :: r => (digits? Char.isDigit r).map ('-' :: ·)
  | '+' :: r => digits? Char.isDigit r
  | r => digits? Char.isDigit r

/-- A number with a fraction, a power of ten, or both. -/
def fractional? (negative : Bool) (cs : List Char) : Option Toml := do
  let (front, power) := cs.span fun c => c != 'e' && c != 'E'
  let (whole, part) := front.span (· != '.')
  let ds ← wholeDigits? whole
  let fraction ← match part with
    | '.' :: r => (digits? Char.isDigit r).map ('.' :: ·)
    | _ => some []
  let exponent ← match power with
    | _ :: r => (power? r).map ('e' :: ·)
    | [] => some []
  if fraction.isEmpty && exponent.isEmpty then none
  else
    let x ← Literal.number? negative (ds ++ fraction ++ exponent)
    if x.isFinite then return .float x else none

/-- The number that a word denotes. -/
def number? (word : List Char) : Option Toml :=
  let (negative, cs) := Literal.sign word
  if cs == "inf".toList then some (.float (.infinite negative))
  else if cs == "nan".toList then some (.float .nan)
  else
    match word with
    | '0' :: 'x' :: r => marked? 16 r
    | '0' :: 'o' :: r => marked? 8 r
    | '0' :: 'b' :: r => marked? 2 r
    | _ => (decimal? negative cs).or (fractional? negative cs)

end EnvProfiles.TomlReader
