/-!
# Quoted Names

How messages and listings show a name so that a shell would read it back: in
single quotes if it needs them, and with the numbers of octets that are no
characters of ASCII or cannot be seen.

## Main definitions

* `Quote.always`: A name in quotes.
* `Quote.ifNeeded`: A name in quotes if it needs them.
-/

namespace EnvProfiles.Quote

/-- Characters that mean something to a shell wherever they stand. -/
def isSpecial (c : Char) : Bool := " \t\n\"!$&()*;<=>[\\\x5e\x60|?".toList.contains c

/-- Whether an octet can be seen. -/
def isVisible (c : Char) : Bool := 32 ≤ c.toNat && c.toNat < 127

/-- Whether a name means something else to a shell if it stands without quotes. -/
def needsQuotes (cs : List Char) : Bool :=
  cs.isEmpty || cs.any (fun c => isSpecial c || c == '\'' || !isVisible c) ||
    cs.head? == some '#' || cs.head? == some '~' || cs == ['{'] || cs == ['}']

/-- Three octal digits. -/
def octal (c : Char) : List Char :=
  let n := c.toNat
  [n / 64, n / 8 % 8, n % 8].map fun d => Char.ofNat ('0'.toNat + d)

/-- The letter after a backslash that stands for a character. -/
def letter? : Char → Option Char
  | '\x07' => some 'a'
  | '\x08' => some 'b'
  | '\x0c' => some 'f'
  | '\n' => some 'n'
  | '\r' => some 'r'
  | '\t' => some 't'
  | '\x0b' => some 'v'
  | _ => none

/-- What stands for characters that cannot be seen, between quotes of their own. -/
def hidden (c : Char) : List Char :=
  match letter? c with
  | some l => ['\\', l]
  | none => '\\' :: octal c

/-- Characters in single quotes, with others in quotes of their own between them. The flag tells
whether those are open. -/
def inQuotes : Bool → List Char → List Char
  | false, [] => ['\'']
  | true, [] => ['\'']
  | false, c :: r =>
    if c == '\'' then "'\\''".toList ++ inQuotes false r
    else if isVisible c then c :: inQuotes false r
    else "'$'".toList ++ hidden c ++ inQuotes true r
  | true, c :: r =>
    if c == '\'' then "\\'".toList ++ inQuotes true r
    else if isVisible c then "''".toList ++ c :: inQuotes false r
    else hidden c ++ inQuotes true r

/-- A name in quotes. If single quotes are all that is wrong with it, it stands in double ones. -/
def always (name : String) : String :=
  let cs := name.toList
  if cs.contains '\'' && cs.all (fun c => isVisible c && !"\"$\\\x60".toList.contains c) then
    "\"" ++ name ++ "\""
  else "'" ++ String.ofList (inQuotes false cs)

/-- A name in quotes if it needs them. -/
def ifNeeded (name : String) : String := if needsQuotes name.toList then always name else name

end EnvProfiles.Quote
