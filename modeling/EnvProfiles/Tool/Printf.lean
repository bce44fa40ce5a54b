import EnvProfiles.Decimal.Floating
import EnvProfiles.Shell.Arithmetic
import EnvProfiles.Tool.Escape
import EnvProfiles.Tool.Quote

/-!
# Formatted Output

Arguments written by a format, which is used again as long as there are
arguments. The shell and the program of this name agree on what a conversion
does, but neither on all conversions nor on how to complain.

## Main definitions

* `Printf.Conversion`: A conversion of a format.
* `Printf.run`: What is written for arguments by a format.
-/

namespace EnvProfiles.Printf

/-- A conversion: its flags, the least width, the precision, the letter, and how it was written. -/
structure Conversion where
  flags : List Char
  width : Nat
  precision : Option Nat
  letter : Char
  source : String
deriving DecidableEq, Repr

/-- What has been written so far. -/
structure Progress where
  /-- Pieces for the standard output and for complaints, last one first. -/
  pieces : List (Nat × String)
  arguments : List String
  status : Nat
  done : Bool
deriving Repr

namespace Progress

/-- Writes characters. -/
def write (p : Progress) (cs : List Char) : Progress :=
  { p with pieces := (1, String.ofList cs) :: p.pieces }

/-- Complains and goes on. -/
def complain (p : Progress) (message : String) : Progress :=
  { p with pieces := (2, message) :: p.pieces }

/-- Complains and ends all output. -/
def abort (p : Progress) (message : String) (status : Nat) : Progress :=
  { p.complain message with status, done := true }

end Progress

/-- A text with blanks at one side up to the width of a conversion. -/
def pad (c : Conversion) (cs : List Char) : List Char :=
  let fill := List.replicate (c.width - cs.length) ' '
  if c.flags.contains '-' then cs ++ fill else fill ++ cs

/-- A number with what stands before its digits, with zeros up to the width if they are wanted. -/
def padNumber (c : Conversion) (zeros : Bool) (start digits : List Char) : List Char :=
  let digits :=
    if zeros && c.flags.contains '0' && !c.flags.contains '-' then
      List.replicate (c.width - start.length - digits.length) '0' ++ digits
    else digits
  pad c (start ++ digits)

/-- The sign of a number. -/
def sign (c : Conversion) (negative : Bool) : List Char :=
  if negative then ['-']
  else if c.flags.contains '+' then ['+']
  else if c.flags.contains ' ' then [' ']
  else []

/-- What a conversion makes of a whole number. -/
def integerText (c : Conversion) (n : Int) : List Char :=
  let natural := (n % (twoTo 64 : Int)).toNat
  let sharp := c.flags.contains '#'
  let (start, digits) : List Char × List Char :=
    if c.letter == 'd' || c.letter == 'i' then (sign c (n < 0), Nat.toDigits 10 n.natAbs)
    else if c.letter == 'u' then ([], Nat.toDigits 10 natural)
    else if c.letter == 'o' then
      let ds := Nat.toDigits 8 natural
      ([], if sharp && natural != 0 then '0' :: ds else ds)
    else
      let ds := Nat.toDigits 16 natural
      let start := if sharp && natural != 0 then ['0', c.letter] else []
      (start, if c.letter == 'X' then ds.map Char.toUpper else ds)
  let digits := match c.precision with
    | some 0 => if n == 0 then [] else digits
    | some p => List.replicate (p - digits.length) '0' ++ digits
    | none => digits
  padNumber c c.precision.isNone start digits

/-- What a conversion makes of a number that need not be whole. -/
def floatingText (bits : Nat) (c : Conversion) (x : Floating) : List Char :=
  let point := c.flags.contains '#'
  let upper := c.letter.isUpper
  let (digits, zeros) : List Char × Bool := match x with
    | .infinite _ => ("inf".toList, false)
    | .undefined _ => ("nan".toList, false)
    | .finite _ m e =>
      let (a, b) := Floating.ratio m e
      let places := c.precision.getD 6
      let ds := match c.letter.toLower with
        | 'f' => Floating.fixed a b places point
        | 'e' => Floating.scientific a b places point
        | 'g' => Floating.general a b places point
        | _ => Floating.hexadecimal m e bits (if bits == 64 then 4 else 1)
      (ds, true)
  padNumber c zeros (sign c x.isNegative) (if upper then digits.map Char.toUpper else digits)

/-- What is said about a number that is none, or that is followed by something else. -/
def numberFault (dialect : Dialect) (text : String) (read rest : Nat) : Option String :=
  match dialect with
  | .shell =>
    if rest == 0 then none
    else if read == 0 then some (text ++ ": expected numeric value")
    else some (text ++ ": not completely converted")
  | .program =>
    if rest == 0 then none
    else if read == 0 then some (Quote.always text ++ ": expected a numeric value")
    else some (Quote.always text ++ ": value not completely converted")

/-- What is said about a number that is too great. -/
def rangeFault (dialect : Dialect) (text : String) : String :=
  (match dialect with
    | .shell => text
    | .program => Quote.always text) ++ ": Numerical result out of range"

/-- The whole number that an argument says, and what is to be said about it. -/
def wholeNumber (dialect : Dialect) (signed : Bool) (text : String) : Int × List String × Nat :=
  let quoted (c : Char) (r : List Char) : Int × List String × Nat :=
    let extra := dialect == .program && !r.isEmpty
    (c.toNat, if extra then ["warning: " ++ String.ofList r ++
      ": character(s) following character constant have been ignored"] else [], 0)
  match text.toList with
  | '\'' :: c :: r => quoted c r
  | '"' :: c :: r => quoted c r
  | cs =>
    let body := cs.dropWhile Shell.Arithmetic.isSpace
    let (negative, body) := match body with
      | '-' :: r => (true, r)
      | '+' :: r => (false, r)
      | r => (false, r)
    match Shell.Arithmetic.natural? body with
    | none =>
      -- A quote by itself stands for no number, but the shell does not mind.
      if dialect == .shell && (text == "'" || text == "\"") then (0, [], 0)
      else
        let fault := numberFault dialect text 0 cs.length
        (0, fault.toList, if fault.isSome then 1 else 0)
    | some (n, rest) =>
      let value : Int := if negative then -(n : Int) else n
      let limit : Int := if signed then (twoTo 63 : Int) else twoTo 64
      let least : Int := if signed then -limit else -limit + 1
      let fits := least ≤ value && value < limit
      let clamped : Int := if fits then value else if negative && signed then least else limit - 1
      let fault := if !fits then some (rangeFault dialect text)
        else numberFault dialect text 1 rest.length
      (clamped, fault.toList, if fault.isSome then 1 else 0)

/-- The number that an argument says, and what is to be said about it. -/
def floatingNumber (dialect : Dialect) (bits : Nat) (text : String) :
    Floating × List String × Nat :=
  match text.toList with
  | '\'' :: c :: _ => (Floating.ofRatio bits false c.toNat 1, [], 0)
  | '"' :: c :: _ => (Floating.ofRatio bits false c.toNat 1, [], 0)
  | cs =>
    match Floating.ofText? bits cs with
    | none =>
      let fault := numberFault dialect text 0 cs.length
      (.finite false 0 0, fault.toList, if fault.isSome then 1 else 0)
    | some (x, rest) =>
      let fault := numberFault dialect text 1 rest.length
      (x, fault.toList, if fault.isSome then 1 else 0)

/-- The digits at the start of a text as a number, and what follows. -/
def leadingNumber (cs : List Char) : Nat × List Char :=
  ((cs.takeWhile Char.isDigit).foldl (fun n d => n * 10 + (d.toNat - '0'.toNat)) 0,
    cs.dropWhile Char.isDigit)

/-- A width or precision that an argument may give, the arguments left, and what follows. -/
def measure (dialect : Dialect) (arguments : List String) (cs : List Char) :
    Int × List String × List Char :=
  match cs with
  | '*' :: r =>
    let (n, _, _) := wholeNumber dialect true (arguments.head?.getD "0")
    (n, arguments.drop 1, r)
  | cs =>
    let (n, r) := leadingNumber cs
    (n, arguments, r)

/-- The conversion that follows a percent sign, the arguments that are left, and what follows. The
letter is missing if the format ends. -/
def conversion (dialect : Dialect) (arguments : List String) (cs : List Char) :
    Conversion × Bool × List String × List Char :=
  let isFlag (c : Char) : Bool :=
    "-+ #0".toList.contains c || (dialect == .program && c == '\'')
  let flags := cs.takeWhile isFlag
  let (width, arguments, r) := measure dialect arguments (cs.dropWhile isFlag)
  let flags := if width < 0 then '-' :: flags else flags
  let (precision, arguments, r) : Option Nat × List String × List Char := match r with
    | '.' :: r =>
      let (p, arguments, r) := measure dialect arguments r
      (if p < 0 then none else some p.toNat, arguments, r)
    | r => (none, arguments, r)
  let r := if dialect == .program then r.dropWhile fun c => "hlLjtz".toList.contains c else r
  let length := cs.length - r.length
  match r with
  | letter :: rest =>
    (⟨flags, width.natAbs, precision, letter, String.ofList ('%' :: cs.take (length + 1))⟩, true,
      arguments, rest)
  | [] => (⟨flags, width.natAbs, precision, ' ', String.ofList ('%' :: cs)⟩, false, arguments, [])

/-- Writes one conversion of the next argument. -/
def convert (dialect : Dialect) (c : Conversion) (p : Progress) : Progress :=
  let missing := p.arguments.isEmpty
  let argument := p.arguments.head?.getD ""
  let next := { p with arguments := p.arguments.drop 1 }
  let cut (cs : List Char) : List Char := match c.precision with
    | some n => cs.take n
    | none => cs
  let plain := c.source.length == 2
  let invalid : Progress :=
    match dialect with
    | .shell => p.abort (c.source ++ ": invalid directive") 2
    | .program => p.abort (c.source ++ ": invalid conversion specification") 1
  let noted (faults : List String) (status : Nat) (p : Progress) : Progress :=
    { faults.foldl Progress.complain p with status := max p.status status }
  let bits := if dialect == .program then 64 else 53
  match c.letter with
  | 's' => next.write (pad c (cut argument.toList))
  | 'c' => next.write (pad c [argument.toList.head?.getD '\x00'])
  | 'b' =>
    if dialect == .program && !plain then invalid
    else
      let (out, ends, fault) := Escape.expand dialect (argument.length + 1) argument.toList
      let next := next.write (pad c (cut out))
      match fault with
      | some message => next.abort message 1
      | none => { next with done := ends }
  | 'q' =>
    if dialect == .program && plain then next.write (Quote.ifNeeded argument).toList else invalid
  | letter =>
    if "diouxX".toList.contains letter then
      let (n, faults, status) :=
        if missing then (0, [], 0)
        else wholeNumber dialect (letter == 'd' || letter == 'i') argument
      (noted faults status next).write (integerText c n)
    else if "aAeEfFgG".toList.contains letter then
      let (x, faults, status) :=
        if missing then (.finite false 0 0, [], 0) else floatingNumber dialect bits argument
      (noted faults status next).write (floatingText bits c x)
    else invalid

/-- Writes a format once. The bound is the length of the format. -/
def once (dialect : Dialect) : Nat → List Char → Progress → Progress
  | 0, _, p => p
  | _ + 1, [], p => p
  | n + 1, c :: r, p =>
    if p.done then p
    else
      match c, r with
      | '\\', r =>
        match Escape.read dialect true r with
        | .stop => { p with done := true }
        | .malformed message => p.abort message 1
        | .text octets r => once dialect n r (p.write octets)
      | '%', '%' :: r => once dialect n r (p.write ['%'])
      | '%', r =>
        let (c, complete, arguments, rest) := conversion dialect p.arguments r
        let p := { p with arguments }
        if complete then once dialect n rest (convert dialect c p)
        else
          match dialect with
          | .shell => p.abort "missing format character" 2
          | .program => p.abort (c.source ++ ": invalid conversion specification") 1
      | c, r => once dialect n r (p.write [c])

/-- Writes a format again as long as it takes arguments and there are any. -/
def again (dialect : Dialect) (format : List Char) : Nat → Progress → Progress
  | 0, p => p
  | n + 1, p =>
    let next := once dialect (format.length + 1) format p
    if next.done || next.arguments.isEmpty then next
    else if next.arguments.length == p.arguments.length then
      match dialect with
      | .shell => next
      | .program => next.complain ("warning: ignoring excess arguments, starting with " ++
          Quote.always (next.arguments.head?.getD ""))
    else again dialect format n next

/-- What is written for arguments by a format: pieces for the standard output and complaints, in
order, and the status. -/
def run (dialect : Dialect) (format : String) (arguments : List String) :
    List (Nat × String) × Nat :=
  let p := again dialect format.toList (arguments.length + 1) ⟨[], arguments, 0, false⟩
  (p.pieces.reverse, p.status)

end EnvProfiles.Printf
