import EnvProfiles.Text.Octets

/-!
# Escapes

What a backslash and the characters after it stand for, to the commands that
write their arguments. The shell and the programs of the machine do not agree on
all of them.

## Main definitions

* `Dialect`: Whose rules hold.
* `Escape.read`: What the text after a backslash stands for.
* `Escape.expand`: A text with what backslashes stand for in place of them.
-/

namespace EnvProfiles

/-- Whose rules hold. -/
inductive Dialect where
  | shell
  | program
deriving DecidableEq, Repr

namespace Escape

/-- What the text after a backslash comes to. -/
inductive Outcome where
  | text (octets : List Char) (rest : List Char)
  /-- All output ends here. -/
  | stop
  | malformed (message : String)

def isOctal (c : Char) : Bool := '0' ≤ c && c ≤ '7'

def isHex (c : Char) : Bool :=
  c.isDigit || ('a' ≤ c && c ≤ 'f') || ('A' ≤ c && c ≤ 'F')

/-- The value of digits in a base. -/
def value (base : Nat) (digits : List Char) : Nat :=
  let digit (c : Char) : Nat :=
    if c.isDigit then c.toNat - '0'.toNat
    else if c.isLower then c.toNat - 'a'.toNat + 10
    else c.toNat - 'A'.toNat + 10
  digits.foldl (fun n d => n * base + digit d) 0

/-- The digits at the start of a text, of which so many at most belong together. -/
def leading (limit : Nat) (p : Char → Bool) (cs : List Char) : List Char :=
  (cs.take limit).takeWhile p

/-- The octet of a number. -/
def octet (n : Nat) : Char := Char.ofNat (n % 256)

/-- The character that a letter after a backslash stands for. -/
def control? : Char → Option Char
  | 'a' => some '\x07'
  | 'b' => some '\x08'
  | 'e' => some '\x1b'
  | 'f' => some '\x0c'
  | 'n' => some '\n'
  | 'r' => some '\r'
  | 't' => some '\t'
  | 'v' => some '\x0b'
  | '\\' => some '\\'
  | _ => none

/-- A number in hexadecimal digits, at least so many of them. -/
def padded (width n : Nat) : List Char :=
  let ds := (Nat.toDigits 16 n).map Char.toUpper
  List.replicate (width - ds.length) '0' ++ ds

/-- A character that is given by its number: an octet if it belongs to ASCII, and else the number as
it would be written. -/
def numbered (letter : Char) (n : Nat) : List Char :=
  if n < 0x80 then [Char.ofNat n]
  else if letter == 'u' || n < 0x10000 then '\\' :: 'u' :: padded 4 n
  else '\\' :: 'U' :: padded 8 n

/-- What the text after a backslash stands for. In an argument, which is no format, a zero may stand
before octal digits, and a letter ends all output. -/
def read (dialect : Dialect) (inFormat : Bool) (cs : List Char) : Outcome :=
  match cs with
  | [] => .text ['\\'] []
  | c :: r =>
    match control? c with
    | some d => .text [d] r
    | none =>
      if isOctal c then
        let ds := if !inFormat && c == '0' then leading 3 isOctal r else leading 3 isOctal cs
        let rest := if !inFormat && c == '0' then r else cs
        .text [octet (value 8 ds)] (rest.drop ds.length)
      else
        match dialect with
        | .shell => if c == 'c' && !inFormat then .stop else .text ['\\'] cs
        | .program =>
          if c == 'c' then .stop
          else if c == '"' then .text ['"'] r
          else if c == 'x' then
            let ds := leading 2 isHex r
            if ds.isEmpty then .malformed "missing hexadecimal number in escape"
            else .text [octet (value 16 ds)] (r.drop ds.length)
          else if c == 'u' || c == 'U' then
            let width := if c == 'u' then 4 else 8
            let ds := leading width isHex r
            if ds.length < width then .malformed "missing hexadecimal number in escape"
            else .text (numbered c (value 16 ds)) (r.drop width)
          else .text ['\\', c] r

/-- A text with what backslashes stand for in place of them, whether all output ends with it, and
what is wrong with it. The bound is its length. -/
def expand (dialect : Dialect) : Nat → List Char → List Char × Bool × Option String
  | 0, _ => ([], false, none)
  | _ + 1, [] => ([], false, none)
  | n + 1, '\\' :: r =>
    match read dialect false r with
    | .stop => ([], true, none)
    | .malformed message => ([], true, some message)
    | .text octets r =>
      let (more, rest) := expand dialect n r
      (octets ++ more, rest)
  | n + 1, c :: r =>
    let (more, rest) := expand dialect n r
    (c :: more, rest)

/-- What `echo` of the shell writes. -/
def echo (arguments : List String) : String :=
  let (line, arguments) := match arguments with
    | "-n" :: r => (false, r)
    | _ => (true, arguments)
  let text := String.intercalate " " arguments
  let (out, ends, _) := expand .shell (text.length + 1) text.toList
  String.ofList (out ++ if line && !ends then ['\n'] else [])

/-- A text with the escapes of the program `echo` in place of backslashes, which knows hexadecimal
digits but refuses nothing. -/
def expandLoosely : Nat → List Char → List Char × Bool
  | 0, _ => ([], false)
  | _ + 1, [] => ([], false)
  | n + 1, '\\' :: c :: r =>
    let after (octets r : List Char) : List Char × Bool :=
      let (more, ends) := expandLoosely n r
      (octets ++ more, ends)
    match control? c with
    | some d => after [d] r
    | none =>
      if c == 'c' then ([], true)
      else if c == 'x' then
        let ds := leading 2 isHex r
        if ds.isEmpty then after ['\\', 'x'] r else after [octet (value 16 ds)] (r.drop ds.length)
      else if c == '0' then
        let ds := leading 3 isOctal r
        after [octet (value 8 ds)] (r.drop ds.length)
      else if isOctal c then
        let ds := leading 3 isOctal (c :: r)
        after [octet (value 8 ds)] ((c :: r).drop ds.length)
      else after ['\\', c] r
  | n + 1, c :: r =>
    let (more, ends) := expandLoosely n r
    (c :: more, ends)

/-- The options and the texts of the program `echo`: whether a line feed ends the output, and
whether backslashes stand for something. -/
def echoOptions : List String → Bool → Bool → Bool × Bool × List String
  | [], line, escapes => (line, escapes, [])
  | a :: r, line, escapes =>
    let letters := a.toList.drop 1
    if "-".isPrefixOf a && !letters.isEmpty && letters.all (fun c => "neE".toList.contains c) then
      let escapes := letters.foldl (fun e c => if c == 'e' then true else if c == 'E' then false
        else e) escapes
      echoOptions r (line && !letters.contains 'n') escapes
    else (line, escapes, a :: r)

/-- What the program `echo` writes. -/
def echoProgram (arguments : List String) : String :=
  let (line, escapes, texts) := echoOptions arguments true false
  let text := String.intercalate " " texts
  let (out, ends) :=
    if escapes then expandLoosely (text.length + 1) text.toList else (text.toList, false)
  String.ofList (out ++ if line && !ends then ['\n'] else [])

end Escape

end EnvProfiles
