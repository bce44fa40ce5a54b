import EnvProfiles.Yaml.Node
import EnvProfiles.Yaml.Value
import EnvProfiles.Decimal.Literal

/-!
# What a Scalar Says

A scalar without quotes may be a null, a truth value, a number or a text. The
first of these that its characters can be read as decides. A scalar in quotes is
a text. A tag of the core of YAML demands one reading, whether there are quotes
or not.

Whole numbers have a range: those that need more than 64 bits are refused, and
those that need more than 128 bits are read as floating-point numbers.

## Main definitions

* `null?`, `bool?`, `whole?`, `float?`: The readings.
* `plainValue?`: What a scalar without quotes says.
* `scalarValue?`: What a scalar says.
-/

namespace EnvProfiles.Yaml

/-- Whether a text is one of the words for nothing. -/
def isNull (cs : List Char) : Bool :=
  ["null", "Null", "NULL", "~"].contains (String.ofList cs)

/-- The truth value that a text names. -/
def bool? (cs : List Char) : Option Bool :=
  let text := String.ofList cs
  if ["true", "True", "TRUE"].contains text then some true
  else if ["false", "False", "FALSE"].contains text then some false
  else none

/-- The value of a digit of either case below a radix. -/
def radixDigit? (radix : Nat) (c : Char) : Option Nat :=
  let n :=
    if c.isDigit then c.toNat - '0'.toNat
    else if 'a' ≤ c ∧ c ≤ 'z' then c.toNat - 'a'.toNat + 10
    else if 'A' ≤ c ∧ c ≤ 'Z' then c.toNat - 'A'.toNat + 10
    else radix
  if n < radix then some n else none

/-- The value of digits, of which at least one must be there. -/
def natural? (radix : Nat) (digits : List Char) : Option Nat :=
  if digits.isEmpty then none
  else digits.foldlM (fun n d => (radixDigit? radix d).map (n * radix + ·)) 0

/-- Whether a text is written like a number with zeros before it, which makes it no number. -/
def hasLeadingZero (cs : List Char) : Bool :=
  let digits := match cs with
    | c :: r => if c == '-' || c == '+' then r else cs
    | [] => []
  match digits with
  | '0' :: r => !r.isEmpty && r.all Char.isDigit
  | _ => false

/-- Digits with a mark for their radix before them, or decimal ones without leading zeros. -/
def magnitude? (whole digits : List Char) : Option Nat :=
  match digits with
  | '0' :: 'x' :: r => natural? 16 r
  | '0' :: 'o' :: r => natural? 8 r
  | '0' :: 'b' :: r => natural? 2 r
  | r => if hasLeadingZero whole then none else natural? 10 r

/-- The whole number that a text denotes, whatever its size. -/
def integer? (cs : List Char) : Option Int :=
  match cs with
  | '+' :: r => (magnitude? cs r).map Int.ofNat
  | '-' :: r => (magnitude? cs r).map fun n => -(n : Int)
  | r => (magnitude? cs r).map Int.ofNat

/-- How a whole number fits the range of numbers. -/
inductive Whole where
  | none
  | fits (n : Int)
  /-- The number needs more than 64 bits, and no more than 128. -/
  | refused

/-- The whole number that a text denotes. -/
def whole? (cs : List Char) : Whole :=
  match integer? cs with
  | some n =>
    if fitsSigned 64 n || fitsUnsigned 64 n then .fits n
    else if fitsSigned 128 n || fitsUnsigned 128 n then .refused
    else .none
  | none => .none

/-- The floating-point number that a text denotes. Words stand for the special numbers, and a
number too large to be finite is none. -/
def float? (cs : List Char) : Option Double :=
  let unsigned := match cs with
    | '+' :: r => r
    | _ => cs
  let word := String.ofList unsigned
  if cs.head? == some '+' && (unsigned.head? == some '+' || unsigned.head? == some '-') then none
  else if [".inf", ".Inf", ".INF"].contains word then some (.infinite false)
  else if ["-.inf", "-.Inf", "-.INF"].contains word then some (.infinite true)
  else if [".nan", ".NaN", ".NAN"].contains (String.ofList cs) then some .nan
  else
    match Double.ofText? unsigned with
    | some x => if x.isFinite then some x else none
    | none => none

/-- What a scalar without quotes says; nothing if it is a number that is refused. -/
def plainValue? (cs : List Char) : Option Value :=
  if cs.isEmpty || isNull cs then some .null
  else
    match bool? cs with
    | some b => some (.bool b)
    | none =>
      match whole? cs with
      | .fits n => some (.int n)
      | .refused => none
      | .none =>
        -- Digits after a zero are no number of either kind.
        if hasLeadingZero cs then some (.text (String.ofList cs))
        else
          match float? cs with
          | some x => some (.float x)
          | none => some (.text (String.ofList cs))

/-- What a scalar says; nothing if its tag demands a reading that its characters do not allow. -/
def scalarValue? (tag : Tag) (cs : List Char) (plain : Bool) : Option Value :=
  let untagged := if plain then plainValue? cs else some (.text (String.ofList cs))
  match tag with
  | .untagged => untagged
  | .unreadable => untagged
  | .named name => untagged.map (.tagged name)
  | .bool => (bool? cs).map .bool
  | .int =>
    match whole? cs with
    | .fits n => some (.int n)
    | _ => none
  | .float => (float? cs).map .float
  | .null => if isNull cs then some .null else none
  | .other => some (.text (String.ofList cs))

end EnvProfiles.Yaml
