/-!
# Text as Octets

A text is stored and handed on as octets, in the encoding UTF-8. An octet is
written here as the character with its number, so that octets that stand for
characters of ASCII look the same as these.

Octets that come from elsewhere need not be a text. They can be read all the
same if everything that encodes no character is replaced by the character
U+FFFD: each octet that no character begins with or goes on with, and each
beginning of a character that is cut short.

## Main definitions

* `octetsOf`: The octets of a text.
* `textOf?`: The text that octets encode, if they encode one.
* `readable`: The text of octets, with replacements.
-/

namespace EnvProfiles

/-- The octets of a text. -/
def octetsOf (text : String) : List Char :=
  text.toUTF8.toList.map fun octet => Char.ofNat octet.toNat

/-- The text that octets encode, if they encode one. -/
def textOf? (octets : List Char) : Option String :=
  String.fromUTF8? ⟨(octets.map fun c => c.toNat.toUInt8).toArray⟩

/-- How many octets go on after the first octet of a character, and the range of the second one. The
range excludes what would have a shorter form, surrogates, and numbers beyond the last. -/
def leadRange? (n : Nat) : Option (Nat × Nat × Nat) :=
  if 0xC2 ≤ n && n ≤ 0xDF then some (1, 0x80, 0xBF)
  else if n == 0xE0 then some (2, 0xA0, 0xBF)
  else if n == 0xED then some (2, 0x80, 0x9F)
  else if 0xE1 ≤ n && n ≤ 0xEF then some (2, 0x80, 0xBF)
  else if n == 0xF0 then some (3, 0x90, 0xBF)
  else if 0xF1 ≤ n && n ≤ 0xF3 then some (3, 0x80, 0xBF)
  else if n == 0xF4 then some (3, 0x80, 0x8F)
  else none

/-- The octets with which a character goes on that was begun, as many as are well formed. -/
def following : Nat → Nat × Nat → List Char → List Char
  | 0, _, _ => []
  | _ + 1, _, [] => []
  | n + 1, (least, most), c :: r =>
    if least ≤ c.toNat && c.toNat ≤ most then c :: following n (0x80, 0xBF) r else []

/-- The character that stands for what cannot be read. -/
def replacement : Char := '\ufffd'

/-- The character that octets begin with, and how many octets it takes; the replacement if they
begin with none. -/
def firstChar (c : Char) (r : List Char) : Char × Nat :=
  let n := c.toNat
  if n < 0x80 then (c, 1)
  else
    match leadRange? n with
    | none => (replacement, 1)
    | some (more, range) =>
      let rest := following more range r
      let lead := if more == 1 then n % 0x20 else if more == 2 then n % 0x10 else n % 0x8
      if rest.length == more then
        (Char.ofNat (rest.foldl (fun v d => v * 0x40 + d.toNat % 0x40) lead), more + 1)
      else (replacement, rest.length + 1)

/-- The characters of octets; the first argument bounds how many. -/
def readableChars : Nat → List Char → List Char
  | 0, _ => []
  | _ + 1, [] => []
  | n + 1, c :: r =>
    let (first, width) := firstChar c r
    first :: readableChars n (r.drop (width - 1))

/-- The text of octets, with replacements for all that encodes no character. -/
def readable (octets : List Char) : String := String.ofList (readableChars octets.length octets)

end EnvProfiles
