import EnvProfiles.Text.Hidden

/-!
# Escaped Text

Text as it is shown to a person who wants to see which characters it holds:
between double quotes, with a backslash before quotes and backslashes, letters
for the usual control characters, and the number in hexadecimal of every other
character that could not be seen.

## Main definitions

* `Escape.char`: How a character is shown.
* `Escape.quote`: How a text is shown.
-/

namespace EnvProfiles

namespace Escape

/-- How a character is shown. -/
def char (c : Char) : String :=
  match c with
  | '"' => "\\\""
  | '\\' => "\\\\"
  | '\x00' => "\\0"
  | '\t' => "\\t"
  | '\n' => "\\n"
  | '\r' => "\\r"
  | c =>
    if isHidden c then "\\u\x7b" ++ String.ofList (Nat.toDigits 16 c.toNat) ++ "\x7d"
    else String.singleton c

/-- How a text is shown. -/
def quote (text : String) : String :=
  "\"" ++ String.join (text.toList.map char) ++ "\""

end Escape

end EnvProfiles
