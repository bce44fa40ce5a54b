import EnvProfiles.Decimal.Range
import EnvProfiles.Shell.Script

/-!
# Arithmetic

Expressions over whole numbers of 64 bits, which wrap around. Variables hold
texts, so what looking one up and setting one means is left to whoever asks for
the value of an expression. What decides nothing is not evaluated: the second
side of an "or" whose first side holds, and the side of a choice that is not
taken.

## Main definitions

* `Expression`: An expression.
* `Expression.ofText`: The expression that a text says.
* `Expression.evaluate`: The value of an expression.
* `Arithmetic.number`: The number at the start of a text.
-/

namespace EnvProfiles.Shell

namespace Arithmetic

/-- A number within 64 bits, counted around. -/
def wrap (n : Int) : Int := Int.bmod n (twoTo 64)

/-- The number within 64 bits that is nearest. -/
def clamp (n : Int) : Int := max (-(twoTo 63 : Int)) (min n ((twoTo 63 : Int) - 1))

/-- The value of a digit in a base. -/
def digit? (base : Nat) (c : Char) : Option Nat :=
  let v :=
    if c.isDigit then some (c.toNat - '0'.toNat)
    else if c.isLower then some (c.toNat - 'a'.toNat + 10)
    else if c.isUpper then some (c.toNat - 'A'.toNat + 10)
    else none
  v.filter (· < base)

/-- The value of digits in a base. -/
def value (base : Nat) (digits : List Char) : Nat :=
  digits.foldl (fun n d => n * base + (digit? base d).getD 0) 0

/-- The natural number at the start of a text, and what follows it: decimal, octal after a zero, or
hexadecimal after `0x`. Nothing, if the text begins with no digit. -/
def natural? (cs : List Char) : Option (Nat × List Char) :=
  let isIn (base : Nat) (c : Char) : Bool := (digit? base c).isSome
  let read (base : Nat) (cs : List Char) : Option (Nat × List Char) :=
    if (cs.head?.any (isIn base)) then
      some (value base (cs.takeWhile (isIn base)), cs.dropWhile (isIn base))
    else none
  match cs with
  | '0' :: x :: d :: r =>
    if (x == 'x' || x == 'X') && isIn 16 d then read 16 (d :: r) else read 8 cs
  | '0' :: _ => read 8 cs
  | _ => read 10 cs

def isSpace (c : Char) : Bool := c == ' ' || (9 ≤ c.toNat && c.toNat ≤ 13)

/-- The number at the start of a text, with white space and a sign before it, and what follows. A
number that is too great is replaced by the greatest one. -/
def number? (cs : List Char) : Option (Int × List Char) :=
  let cs := cs.dropWhile isSpace
  let (negative, cs) := match cs with
    | '-' :: r => (true, r)
    | '+' :: r => (false, r)
    | _ => (false, cs)
  (natural? cs).map fun (n, r) => (clamp (if negative then -(n : Int) else n), r)

/-- The number that a text says, with white space around it. -/
def whole? (text : String) : Option Int :=
  match number? text.toList with
  | some (n, r) => if r.all isSpace then some n else none
  | none => none

end Arithmetic

/-- What joins two numbers. -/
inductive Joint where
  | times | divided | modulo | plus | minus | left | right
  | less | atMost | greater | atLeast | equal | different
  | bothBits | otherBits | someBits
deriving DecidableEq, Repr

/-- How loosely a joint binds. -/
def Joint.rank : Joint → Nat
  | times | divided | modulo => 0
  | plus | minus => 1
  | left | right => 2
  | less | atMost | greater | atLeast => 3
  | equal | different => 4
  | bothBits => 5
  | otherBits => 6
  | someBits => 7

/-- What is done with one number. -/
inductive Change where
  | negated | opposite | inverted
deriving DecidableEq, Repr

/-- An expression. -/
inductive Expression where
  | number (n : Int)
  | variable (name : String)
  | change (change : Change) (body : Expression)
  | join (joint : Joint) (a b : Expression)
  | both (a b : Expression)
  | either (a b : Expression)
  | choice (condition yes no : Expression)
  /-- Sets a variable, to a value or to what a joint makes of the old one. -/
  | assign (name : String) (joint : Option Joint) (value : Expression)
deriving Repr

namespace Expression

/-- What an expression is made of. -/
inductive Symbol where
  | number (n : Int)
  | name (text : String)
  | joint (joint : Joint)
  | assign (joint : Option Joint)
  | sign (text : String)
  /-- A character that belongs to no expression. -/
  | other
deriving DecidableEq, Repr

/-- The signs of expressions, longer ones first. -/
def signs : List (String × Symbol) :=
  [("<<=", .assign (some .left)), (">>=", .assign (some .right)),
    ("<<", .joint .left), (">>", .joint .right), ("<=", .joint .atMost), (">=", .joint .atLeast),
    ("==", .joint .equal), ("!=", .joint .different), ("&&", .sign "&&"), ("||", .sign "||"),
    ("*=", .assign (some .times)), ("/=", .assign (some .divided)), ("%=", .assign (some .modulo)),
    ("+=", .assign (some .plus)), ("-=", .assign (some .minus)),
    ("&=", .assign (some .bothBits)), ("\x5e=", .assign (some .otherBits)),
    ("|=", .assign (some .someBits)),
    ("<", .joint .less), (">", .joint .greater), ("=", .assign none), ("&", .joint .bothBits),
    ("\x5e", .joint .otherBits), ("|", .joint .someBits), ("*", .joint .times),
    ("/", .joint .divided), ("%", .joint .modulo), ("+", .joint .plus), ("-", .joint .minus),
    ("!", .sign "!"), ("~", .sign "~"), ("?", .sign "?"), (":", .sign ":"), ("(", .sign "("),
    (")", .sign ")")]

/-- The symbols of a text; the bound is its length. -/
def symbols : Nat → List Char → List Symbol
  | 0, _ => []
  | _ + 1, [] => []
  | n + 1, c :: r =>
    if Arithmetic.isSpace c then symbols n r
    else if c.isDigit then
      match Arithmetic.natural? (c :: r) with
      | some (v, r) => .number (Arithmetic.clamp v) :: symbols n r
      | none => .other :: symbols n r
    else if isNameStart c then
      .name (String.ofList ((c :: r).takeWhile isNameChar)) ::
        symbols n ((c :: r).dropWhile isNameChar)
    else
      match signs.find? fun s => s.1.toList.isPrefixOf (c :: r) with
      | some (sign, symbol) => symbol :: symbols n ((c :: r).drop sign.length)
      | none => .other :: symbols n r

/-- An expression and the symbols that follow it, or what is missing. -/
abbrev Reading := Except String (Expression × List Symbol)

mutual

/-- Reads an expression that stands by itself. -/
def readPrimary : Nat → List Symbol → Reading
  | 0, _ => .error "expecting primary"
  | n + 1, symbols =>
    let changed (change : Change) (r : List Symbol) : Reading :=
      (readPrimary n r).map fun (e, r) => (.change change e, r)
    match symbols with
    | .number v :: r => .ok (.number v, r)
    | .name text :: r => .ok (.variable text, r)
    | .joint .plus :: r => readPrimary n r
    | .joint .minus :: r => changed .opposite r
    | .sign "!" :: r => changed .negated r
    | .sign "~" :: r => changed .inverted r
    | .sign "(" :: r =>
      match readAssignment n r with
      | .ok (e, .sign ")" :: r) => .ok (e, r)
      | .ok _ => .error "expecting ')'"
      | .error missing => .error missing
    | _ => .error "expecting primary"

/-- Reads expressions with joints between them that bind at least as tightly as a rank. -/
def readJoined : Nat → Nat → List Symbol → Reading
  | 0, _, _ => .error "expecting primary"
  | n + 1, rank, symbols =>
    match readPrimary n symbols with
    | .error missing => .error missing
    | .ok (a, r) => readFurther n rank a r

/-- Reads joints and what they join to an expression. -/
def readFurther : Nat → Nat → Expression → List Symbol → Reading
  | 0, _, _, _ => .error "expecting primary"
  | n + 1, rank, a, symbols =>
    match symbols with
    | .joint joint :: r =>
      if joint.rank ≤ rank then
        match (if joint.rank == 0 then readPrimary n r else readJoined n (joint.rank - 1) r) with
        | .error missing => .error missing
        | .ok (b, r) => readFurther n rank (.join joint a b) r
      else .ok (a, symbols)
    | _ => .ok (a, symbols)

/-- Reads expressions that all have to hold. -/
def readBoth : Nat → List Symbol → Reading
  | 0, _ => .error "expecting primary"
  | n + 1, symbols =>
    match readJoined n 7 symbols with
    | .ok (a, .sign "&&" :: r) => (readBoth n r).map fun (b, r) => (.both a b, r)
    | other => other

/-- Reads expressions of which one has to hold. -/
def readEither : Nat → List Symbol → Reading
  | 0, _ => .error "expecting primary"
  | n + 1, symbols =>
    match readBoth n symbols with
    | .ok (a, .sign "||" :: r) => (readEither n r).map fun (b, r) => (.either a b, r)
    | other => other

/-- Reads an expression that may be a choice between two. -/
def readChoice : Nat → List Symbol → Reading
  | 0, _ => .error "expecting primary"
  | n + 1, symbols =>
    match readEither n symbols with
    | .ok (a, .sign "?" :: r) =>
      match readAssignment n r with
      | .ok (b, .sign ":" :: r) => (readChoice n r).map fun (c, r) => (.choice a b c, r)
      | .ok _ => .error "expecting ':'"
      | .error missing => .error missing
    | other => other

/-- Reads an expression that may set a variable. -/
def readAssignment : Nat → List Symbol → Reading
  | 0, _ => .error "expecting primary"
  | n + 1, symbols =>
    match symbols with
    | .name text :: .assign joint :: r =>
      (readAssignment n r).map fun (e, r) => (.assign text joint e, r)
    | _ => readChoice n symbols

end

/-- The expression that a text says, or what is missing from it. -/
def ofText (text : String) : Except String Expression :=
  let symbols := symbols (text.length + 1) text.toList
  match readAssignment (8 * symbols.length + 16) symbols with
  | .ok (e, []) => .ok e
  | .ok _ => .error "expecting EOF"
  | .error missing => .error missing

/-- The number of a truth value. -/
def truth (b : Bool) : Int := if b then 1 else 0

/-- What bits make of two numbers, each taken as 64 bits. -/
def bitwise (f : Nat → Nat → Nat) (a b : Int) : Int :=
  let bits (n : Int) : Nat := (n % (twoTo 64 : Int)).toNat
  Arithmetic.wrap (f (bits a) (bits b))

/-- How far a number is shifted by another one: only its last six bits count. -/
def distance (n : Int) : Nat := (n % 64).toNat

/-- What a joint makes of two numbers; there is nothing to divide by zero. -/
def combine (joint : Joint) (a b : Int) : Option Int :=
  match joint with
  | .times => some (Arithmetic.wrap (a * b))
  | .divided => if b == 0 then none else some (Arithmetic.wrap (a.tdiv b))
  | .modulo => if b == 0 then none else some (a.tmod b)
  | .plus => some (Arithmetic.wrap (a + b))
  | .minus => some (Arithmetic.wrap (a - b))
  | .left => some (Arithmetic.wrap (a * (twoTo (distance b) : Int)))
  | .right => some (a.fdiv (twoTo (distance b) : Int))
  | .less => some (truth (a < b))
  | .atMost => some (truth (a ≤ b))
  | .greater => some (truth (b < a))
  | .atLeast => some (truth (b ≤ a))
  | .equal => some (truth (a == b))
  | .different => some (truth (a != b))
  | .bothBits => some (bitwise Nat.land a b)
  | .otherBits => some (bitwise Nat.xor a b)
  | .someBits => some (bitwise Nat.lor a b)

/-- The value of an expression, given how a variable is looked up and set, and what happens if
something is divided by zero. -/
def evaluate {m : Type → Type} [Monad m] (get : String → m Int) (set : String → Int → m Unit)
    (undefined : m Int) : Expression → m Int
  | number n => pure n
  | .variable name => get name
  | change .negated e => return truth ((← evaluate get set undefined e) == 0)
  | change .opposite e => return Arithmetic.wrap (-(← evaluate get set undefined e))
  | change .inverted e => return -(← evaluate get set undefined e) - 1
  | join joint a b => do
    let x ← evaluate get set undefined a
    let y ← evaluate get set undefined b
    match combine joint x y with
    | some v => pure v
    | none => undefined
  | both a b => do
    let x ← evaluate get set undefined a
    if x == 0 then return 0
    return truth ((← evaluate get set undefined b) != 0)
  | either a b => do
    let x ← evaluate get set undefined a
    if x != 0 then return 1
    return truth ((← evaluate get set undefined b) != 0)
  | choice a b c => do
    let x ← evaluate get set undefined a
    if x != 0 then evaluate get set undefined b else evaluate get set undefined c
  | assign name none e => do
    let v ← evaluate get set undefined e
    set name v
    return v
  | assign name (some joint) e => do
    let v ← evaluate get set undefined e
    let old ← get name
    match combine joint old v with
    | some v =>
      set name v
      return v
    | none => undefined

end Expression

end EnvProfiles.Shell
