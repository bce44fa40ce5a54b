/-!
# Quoted Text

Text between double quotes, as JSON writes it: a quote and a backslash are
preceded by a backslash, five control characters have a letter of their own,
and the other characters below the space are given by four hexadecimal digits.
Everything else stands for itself.

The reader takes more than the writer produces, namely every string of JSON: a
slash may be escaped, and any character may be given by its number, in two
halves where four digits do not suffice.

## Main definitions

* `Quoted.encode`: The characters between the quotes.
* `Quoted.quote`: A text with its quotes.
* `Quoted.decode`: Reads up to the closing quote.

## Theorems

* `decode_encode`: Reading what was written gives the text back.
-/

namespace EnvProfiles

namespace Quoted

/-- The digit of a value below sixteen, in lower case. -/
def hexDigit (n : Nat) : Char :=
  if n < 10 then Char.ofNat ('0'.toNat + n) else Char.ofNat ('a'.toNat + (n - 10))

/-- The value of a hexadecimal digit of either case. -/
def hexValue? (c : Char) : Option Nat :=
  if '0' ≤ c ∧ c ≤ '9' then some (c.toNat - '0'.toNat)
  else if 'a' ≤ c ∧ c ≤ 'f' then some (c.toNat - 'a'.toNat + 10)
  else if 'A' ≤ c ∧ c ≤ 'F' then some (c.toNat - 'A'.toNat + 10)
  else none

/-- The value of four hexadecimal digits. -/
def hexFour? (a b c d : Char) : Option Nat := do
  let a ← hexValue? a
  let b ← hexValue? b
  let c ← hexValue? c
  let d ← hexValue? d
  return ((a * 16 + b) * 16 + c) * 16 + d

/-- One character as it is written between quotes. -/
def encodeChar (c : Char) : List Char :=
  match c with
  | '"' => ['\\', '"']
  | '\\' => ['\\', '\\']
  | '\x08' => ['\\', 'b']
  | '\x0c' => ['\\', 'f']
  | '\n' => ['\\', 'n']
  | '\r' => ['\\', 'r']
  | '\t' => ['\\', 't']
  | c =>
    if c.toNat < 0x20 then ['\\', 'u', '0', '0', hexDigit (c.toNat / 16), hexDigit (c.toNat % 16)]
    else [c]

/-- The characters between the quotes. -/
def encode (cs : List Char) : List Char := cs.flatMap encodeChar

/-- A text with its quotes. -/
def quote (text : String) : String :=
  String.ofList ('"' :: encode text.toList ++ ['"'])

/-- The character that a letter after a backslash stands for. -/
def ofLetter? : Char → Option Char
  | '"' => some '"'
  | '\\' => some '\\'
  | '/' => some '/'
  | 'b' => some '\x08'
  | 'f' => some '\x0c'
  | 'n' => some '\n'
  | 'r' => some '\r'
  | 't' => some '\t'
  | _ => none

/-- The character of a code point, unless it is half of a pair or too large. -/
def ofCodePoint? (n : Nat) : Option Char :=
  if h : n.isValidChar then some (Char.ofNatAux n h) else none

/-- The character that two halves of a pair stand for. -/
def ofHalves? (high low : Nat) : Option Char :=
  if 0xD800 ≤ high ∧ high < 0xDC00 ∧ 0xDC00 ≤ low ∧ low < 0xE000 then
    ofCodePoint? (0x10000 + (high - 0xD800) * 0x400 + (low - 0xDC00))
  else none

/-- Reads up to the closing quote; the result is the text and what follows the quote. -/
def decode : List Char → Option (List Char × List Char)
  | [] => none
  | '"' :: r => some ([], r)
  | '\\' :: 'u' :: a :: b :: c :: d :: r =>
    match hexFour? a b c d with
    | none => none
    | some n =>
      match ofCodePoint? n with
      | some x => (decode r).map fun (t, r) => (x :: t, r)
      | none =>
        match r with
        | '\\' :: 'u' :: e :: f :: g :: h :: r =>
          match (hexFour? e f g h).bind (ofHalves? n) with
          | some x => (decode r).map fun (t, r) => (x :: t, r)
          | none => none
        | _ => none
  | '\\' :: l :: r =>
    match ofLetter? l with
    | some x => (decode r).map fun (t, r) => (x :: t, r)
    | none => none
  | c :: r =>
    if c.toNat < 0x20 then none else (decode r).map fun (t, r) => (c :: t, r)

/-- The digits written for a control character are read as its number. -/
theorem hexFour?_hexDigit : ∀ n < 32,
    hexFour? '0' '0' (hexDigit (n / 16)) (hexDigit (n % 16)) = some n ∧
      ofCodePoint? n = some (Char.ofNat n) := by
  decide

/-- Reading one written character gives that character back. -/
theorem decode_encodeChar (c : Char) (r : List Char) :
    decode (encodeChar c ++ r) = (decode r).map fun (t, r) => (c :: t, r) := by
  unfold encodeChar
  split
  next => rfl
  next => rfl
  next => rfl
  next => rfl
  next => rfl
  next => rfl
  next => rfl
  next hq hb _ _ _ _ _ =>
    split
    next hlt =>
      obtain ⟨hfour, hpoint⟩ := hexFour?_hexDigit c.toNat hlt
      simp only [List.cons_append, List.nil_append, decode, hfour, hpoint, Char.ofNat_toNat]
    next hge =>
      rw [List.singleton_append, decode, if_neg hge]
      · exact hq
      · intro _ _ _ _ _ h; exact fun _ => hb h
      · intro _ _ h; exact fun _ => hb h

/-- Reading what was written gives the text back, and what follows the closing quote. -/
theorem decode_encode (cs r : List Char) : decode (encode cs ++ '"' :: r) = some (cs, r) := by
  induction cs with
  | nil => rfl
  | cons c cs ih =>
    rw [encode, List.flatMap_cons, List.append_assoc, decode_encodeChar, ← encode, ih]
    rfl

end Quoted

end EnvProfiles
